import ConnectorConsole.Json.Printer
import ConnectorConsole.Proofs.Json.Scanning
import ConnectorConsole.Proofs.Number.Digits
import Mathlib.Algebra.Group.Int.Defs
import Mathlib.Data.Nat.Basic

/-!
# Scalars read back

A string is read back to the text that it writes, and the decimal digits of an integer
of machine size to the integer.  A string ends at its closing quote, whatever comes
after it; a numeral ends where no character follows that could continue it.
-/

namespace ConnectorConsole

open Scan

namespace JsonString

/-- The digits that name a control character are read as its code. -/
theorem unit_of_controlDigits {code : Nat} (control : code < 0x20) (mark : Mark)
    (after : List Char) : unitAhead mark (Json.controlDigits code ++ after) = .ok code := by
  have digits : ∀ code < 0x20, byteCount (Json.controlDigits code) = 4 ∧
      hexNumber? (Json.controlDigits code) = some code ∧
      ((Json.controlDigits code).all fun c => c.utf8Size = 1) = true := by
    decide
  obtain ⟨four, isNumber, single⟩ := digits code control
  have front : (Json.controlDigits code ++ after).take 4 = Json.controlDigits code := rfl
  rw [unitAhead, front, four, isNumber]
  simp [single]

theorem readFrom_controlDigits {code : Nat} (control : code < 0x20) (mark : Mark)
    (done after : List Char) :
    ∃ last, readFrom .escape mark done ('u' :: Json.controlDigits code ++ after) =
      readFrom .plain last (Char.ofNat code :: done) after := by
  have notLow : isLow code = false := by simp [isLow]; omega
  have notHigh : isHigh code = false := by simp [isHigh]; omega
  have opens : openUnit (mark.after 'u') (Json.controlDigits code ++ after) =
      .ok (.digits 4 (Char.ofNat code)) := by
    rw [openUnit, unit_of_controlDigits control]
    simp only [bind, Except.bind, notLow, notHigh, pure, Except.pure]
    rfl
  refine ⟨(mark.after 'u').afterAll (Json.controlDigits code), ?_⟩
  rw [List.cons_append, readFrom]
  simp only [opens]
  rfl

/-- One escaped character is read back, inside a string. -/
theorem readFrom_escapedChar (c : Char) (mark : Mark) (done after : List Char) :
    ∃ last, readFrom .plain mark done (Json.escapedChar c ++ after) =
      readFrom .plain last (c :: done) after := by
  rw [Json.escapedChar]
  split_ifs with quote backslash backspace formFeed newline carriage tab control
  · subst quote; exact ⟨_, rfl⟩
  · subst backslash; exact ⟨_, rfl⟩
  · subst backspace; exact ⟨_, rfl⟩
  · subst formFeed; exact ⟨_, rfl⟩
  · subst newline; exact ⟨_, rfl⟩
  · subst carriage; exact ⟨_, rfl⟩
  · subst tab; exact ⟨_, rfl⟩
  · obtain ⟨last, reads⟩ := readFrom_controlDigits control (mark.after '\\') done after
    rw [Char.ofNat_toNat] at reads
    exact ⟨last, reads⟩
  · exact ⟨mark.after c, by simp [readFrom, quote, backslash, control]⟩

theorem readFrom_stringChars (chars : List Char) (mark : Mark) (done after : List Char) :
    ∃ last, readFrom .plain mark done (chars.flatMap Json.escapedChar ++ '"' :: after) =
      .ok (String.ofList (done.reverse ++ chars), ⟨after, last⟩) := by
  induction chars generalizing mark done with
  | nil => exact ⟨mark.after '"', by simp [readFrom]⟩
  | cons c rest ih =>
      obtain ⟨middle, reads⟩ :=
        readFrom_escapedChar c mark done (rest.flatMap Json.escapedChar ++ '"' :: after)
      obtain ⟨last, readsRest⟩ := ih middle (c :: done)
      refine ⟨last, ?_⟩
      rw [List.flatMap_cons, List.append_assoc, reads, readsRest]
      simp

/-- A string is read back after its opening quote. -/
theorem reads_text (text : String) (after : List Char) :
    Reads JsonString.read (text.toList.flatMap Json.escapedChar ++ '"' :: after) text after := by
  intro mark
  obtain ⟨last, reads⟩ := readFrom_stringChars text.toList mark [] after
  refine ⟨last, ?_⟩
  rw [JsonString.read, reads]
  simp

end JsonString

namespace Numeral

/-- The characters that a numeral may go on with. -/
def continues (c : Char) : Bool :=
  isDigit c || c == '.' || c == 'e' || c == 'E'

theorem le_ofDigitChars (digits : List Char) (value : Nat) :
    value ≤ Nat.ofDigitChars 10 digits value := by
  induction digits generalizing value with
  | nil => exact le_rfl
  | cons digit rest ih =>
      rw [Nat.ofDigitChars_cons]
      have := ih (10 * value + (digit.toNat - '0'.toNat))
      omega

/-- Digits of a number of 64 bits are absorbed without a rest. -/
theorem absorb_eq {digits : List Char} {value : Nat}
    (fits : Nat.ofDigitChars 10 digits value < UInt64.size) :
    absorb value digits = (Nat.ofDigitChars 10 digits value, 0) := by
  induction digits generalizing value with
  | nil => rfl
  | cons digit rest ih =>
      rw [Nat.ofDigitChars_cons] at fits ⊢
      have extended := le_ofDigitChars rest (10 * value + (digit.toNat - '0'.toNat))
      have step : 10 * value + digitValue digit < UInt64.size := lt_of_le_of_lt extended fits
      rw [absorb, if_pos step]
      exact ih fits

theorem absorb_digitsOf {size : Nat} (fits : size < UInt64.size) :
    absorb 0 (Binary64.digitsOf size) = (size, 0) := by
  have same : Nat.ofDigitChars 10 (Binary64.digitsOf size) 0 = size :=
    Nat.ofDigitChars_toDigits (by decide) (by decide)
  rw [absorb_eq (by rw [same]; exact fits), same]

/-- The digits of a positive number do not begin with a zero. -/
theorem digitsOf_head {size : Nat} (positive : 0 < size) :
    ∃ c rest, Binary64.digitsOf size = c :: rest ∧ c ≠ '0' := by
  induction size using Nat.strongRecOn with
  | ind size ih =>
      rw [Binary64.digitsOf]
      by_cases single : size < 10
      · rw [Nat.toDigits_of_lt_base single]
        have notZero : ∀ digit < 10, 0 < digit → Nat.digitChar digit ≠ '0' := by decide
        exact ⟨_, [], rfl, notZero size single positive⟩
      · obtain ⟨c, rest, digits, notZero⟩ := ih (size / 10) (by omega) (by omega)
        rw [Binary64.digitsOf] at digits
        rw [Nat.toDigits_of_base_le (by decide) (by omega)]
        exact ⟨c, rest ++ [Nat.digitChar (size % 10)], by simp [digits], notZero⟩

theorem reads_readAfterWhole (negative : Bool) (size : Nat) {after : List Char}
    (stops : Stops continues after) :
    Reads (readAfterWhole negative size 0) after (whole negative size) after := by
  refine (Reads.peek after).bind ?_
  cases after with
  | nil => exact .pure _ _
  | cons c rest =>
      have ends := stops_cons.mp stops
      simp only [continues, Bool.or_eq_false_iff, beq_eq_false_iff_ne] at ends
      obtain ⟨⟨⟨_, notPoint⟩, notLower⟩, notUpper⟩ := ends
      simp only [List.head?_cons]
      split
      · simp_all
      · simp_all
      · simp_all
      · exact .pure _ _

/-- The digits of a number of 64 bits are read back. -/
theorem reads_readUnsigned (negative : Bool) {size : Nat} (fits : size < UInt64.size)
    {after : List Char} (stops : Stops continues after) :
    Reads (readUnsigned negative) (Binary64.digitsOf size ++ after) (whole negative size)
      after := by
  have noDigit : Stops isDigit after := by
    intro c isHead
    have ends := stops c isHead
    simp only [continues, Bool.or_eq_false_iff] at ends
    exact ends.1.1.1
  rw [readUnsigned]
  refine (Reads.peek _).bind ?_
  rcases Nat.eq_zero_or_pos size with rfl | positive
  · refine (Reads.bump '0' after).bind ((Reads.peek after).bind ?_)
    cases after with
    | nil => exact reads_readAfterWhole negative 0 (stops_nil _)
    | cons c rest =>
        simp only [List.head?_cons, stops_cons.mp noDigit]
        exact reads_readAfterWhole negative 0 stops
  · obtain ⟨c, rest, digits, notZero⟩ := digitsOf_head positive
    have cDigit : isDigit c = true := Binary64.isDigit_of_mem_digitsOf (by rw [digits]; simp)
    have runs : Reads (takeWhile isDigit) (Binary64.digitsOf size ++ after)
        (Binary64.digitsOf size) after :=
      Reads.takeWhile (fun _ => Binary64.isDigit_of_mem_digitsOf) noDigit
    rw [show (Binary64.digitsOf size ++ after).head? = some c by simp [digits]]
    split
    · simp_all
    · simp_all
    · rename_i other _ isOther
      cases isOther
      simp only [cDigit, if_true]
      refine runs.bind ?_
      rw [absorb_digitsOf fits]
      exact reads_readAfterWhole negative size stops

/-- An integer of machine size is read back. -/
theorem reads_integer {value : Int} (least : -(2 ^ 63) ≤ value) (greatest : value < 2 ^ 64)
    {after : List Char} (stops : Stops continues after) :
    Reads Numeral.read (Json.integerChars value ++ after) (.integer value) after := by
  rw [Numeral.read]
  refine (Reads.peek _).bind ?_
  have word : UInt64.size = 2 ^ 64 := rfl
  cases value with
  | ofNat size =>
      have fits : size < UInt64.size := word ▸ Int.ofNat_lt.mp greatest
      obtain ⟨c, rest, digits⟩ : ∃ c rest, Binary64.digitsOf size = c :: rest :=
        List.exists_cons_of_ne_nil Nat.toDigits_ne_nil
      have cDigit : isDigit c = true := Binary64.isDigit_of_mem_digitsOf (by rw [digits]; simp)
      have notMinus : c ≠ '-' := by
        rintro rfl
        cases cDigit
      have isHead : (Json.integerChars (.ofNat size) ++ after).head? = some c := by
        simp [Json.integerChars, digits]
      rw [isHead]
      split
      · simp_all
      · exact reads_readUnsigned false fits stops
  | negSucc size =>
      have bounded : size + 1 ≤ 2 ^ 63 := by omega
      have fits : size + 1 < UInt64.size := word ▸ lt_of_le_of_lt bounded (by decide)
      have double : 2 * (size + 1) ≤ UInt64.size := word ▸ Nat.mul_le_mul_left 2 bounded
      have isWhole : whole true (size + 1) = .integer (.negSucc size) := by
        rw [whole, if_neg (by decide), if_pos ⟨Nat.succ_pos size, double⟩]
        rfl
      rw [← isWhole]
      refine (Reads.bump '-' _).bind ?_
      exact reads_readUnsigned true fits stops

end Numeral

end ConnectorConsole
