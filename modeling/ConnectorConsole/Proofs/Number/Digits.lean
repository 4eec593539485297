import ConnectorConsole.Number.Reading
import ConnectorConsole.Text.Blank

/-!
# Decimal digits

A natural number is read back from its decimal digits.  A text is read as a natural number when
it holds digits and nothing else, apart from a plus sign in front.
-/

namespace ConnectorConsole

theorem not_blank_of_digit {c : Char} (digit : isDigit c = true) : Text.isBlank c = false := by
  have digits : ∀ code < 128, isDigit (Char.ofNat code) = true →
      Text.isBlank (Char.ofNat code) = false := by
    decide
  have small : c.toNat < 128 := by
    simp only [isDigit, Bool.and_eq_true, decide_eq_true_eq, Char.le_def] at digit
    exact Nat.lt_of_le_of_lt (UInt32.le_iff_toNat_le.mp digit.2) (by decide)
  have notBlank := digits c.toNat small
  rw [Char.ofNat_toNat] at notBlank
  exact notBlank digit

namespace Binary64

theorem isDigit_of_mem_digitsOf {number : Nat} {c : Char} (member : c ∈ digitsOf number) :
    isDigit c = true := by
  have digit := Nat.isDigit_of_mem_toDigits (by decide) (by decide) member
  simpa [isDigit, Char.isDigit, Char.le_def] using digit

theorem decimalValue_digitsOf (number : Nat) : decimalValue (digitsOf number) = number :=
  Nat.ofDigitChars_toDigits (by decide) (by decide)

end Binary64

theorem not_blank_of_mem_toString {number : Nat} {c : Char}
    (member : c ∈ (toString number).toList) : Text.isBlank c = false := by
  have isText : (toString number).toList = Binary64.digitsOf number := Nat.toList_repr
  rw [isText] at member
  exact not_blank_of_digit (Binary64.isDigit_of_mem_digitsOf member)

/-- A list of digits that writes a number, which may begin with zeros. -/
structure WritesDecimal (digits : List Char) (number : Nat) : Prop where
  present : digits ≠ []
  allDigits : ∀ c ∈ digits, isDigit c = true
  value : decimalValue digits = number

theorem writesDecimal_digitsOf (number : Nat) : WritesDecimal (Binary64.digitsOf number) number :=
  ⟨Nat.toDigits_ne_nil, fun _ => Binary64.isDigit_of_mem_digitsOf,
    Binary64.decimalValue_digitsOf number⟩

/-- Zeros in front of a number do not change it. -/
theorem WritesDecimal.zeros_append {digits : List Char} {number : Nat}
    (written : WritesDecimal digits number) (zeros : Nat) :
    WritesDecimal (List.replicate zeros '0' ++ digits) number := by
  induction zeros with
  | zero => exact written
  | succ zeros ih =>
      refine ⟨List.cons_ne_nil _ _, ?_, ih.value⟩
      exact List.forall_mem_cons.mpr ⟨rfl, ih.allDigits⟩

/-- A text that writes a number, maybe with a plus sign in front. -/
def WritesNat (text : String) (number : Nat) : Prop :=
  WritesDecimal text.toList number ∨
    ∃ digits, text.toList = '+' :: digits ∧ WritesDecimal digits number

theorem writesNat_toString (number : Nat) : WritesNat (toString number) number := by
  have isText : (toString number).toList = Binary64.digitsOf number := Nat.toList_repr
  exact .inl (isText ▸ writesDecimal_digitsOf number)

theorem readNat?_eq_some_iff {text : String} {number : Nat} :
    readNat? text = some number ↔ WritesNat text number := by
  have plus : isDigit '+' = false := rfl
  have accepts (digits : List Char) :
      (if digits.isEmpty || !digits.all isDigit then none else some (decimalValue digits)) =
        some number ↔ WritesDecimal digits number := by
    constructor
    · intro isRead
      split at isRead
      next => cases isRead
      next whole =>
        simp only [Bool.or_eq_true, Bool.not_eq_true', not_or, List.isEmpty_iff,
          Bool.not_eq_false, List.all_eq_true] at whole
        exact ⟨whole.1, whole.2, Option.some.inj isRead⟩
    · rintro ⟨present, allDigits, rfl⟩
      have all : digits.all isDigit = true := List.all_eq_true.mpr allDigits
      rw [all, List.isEmpty_eq_false_iff.mpr present]
      rfl
  rw [readNat?, WritesNat]
  split
  next digits isText =>
    rw [accepts, isText]
    refine ⟨fun written => .inr ⟨digits, rfl, written⟩, ?_⟩
    rintro (written | ⟨_, ⟨⟩, written⟩)
    · -- a plus sign is no digit
      rw [written.allDigits '+' List.mem_cons_self] at plus
      cases plus
    · exact written
  next noPlus =>
    rw [accepts]
    refine ⟨.inl, ?_⟩
    rintro (written | ⟨digits, isText, _⟩)
    · exact written
    · exact absurd isText (noPlus digits)

end ConnectorConsole
