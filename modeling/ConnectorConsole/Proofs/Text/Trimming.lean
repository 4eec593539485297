import ConnectorConsole.Text.Blank
import Mathlib.Data.List.DropRight
import Mathlib.Data.List.Sections

/-!
# Trimmed texts

Trimming gives a text that neither begins nor ends with a blank, and leaves such a text
as it is.  Nothing is left of a blank text, and of no other.
-/

namespace ConnectorConsole

namespace Text

/-- A text that neither begins nor ends with a blank. -/
def Trimmed (text : String) : Prop :=
  (∀ c ∈ text.toList.head?, isBlank c = false) ∧
    ∀ c ∈ text.toList.getLast?, isBlank c = false

/-- A trimmed text with something in it. -/
def Filled (text : String) : Prop :=
  text ≠ "" ∧ Trimmed text

/-- A text that is missing or filled. -/
def FilledIfAny (value : Option String) : Prop :=
  ∀ text ∈ value, Filled text

theorem trimRight_eq_rdropWhile (chars : List Char) :
    trimRight chars = chars.rdropWhile isBlank :=
  rfl

theorem trimLeft_of_head {chars : List Char} (head : ∀ c ∈ chars.head?, isBlank c = false) :
    trimLeft chars = chars := by
  cases chars with
  | nil => rfl
  | cons c rest =>
      have notBlank : isBlank c = false := head c rfl
      simp [trimLeft, notBlank]

theorem head_trimLeft (chars : List Char) :
    ∀ c ∈ (trimLeft chars).head?, isBlank c = false := by
  intro c isHead
  have property := List.head?_dropWhile_not isBlank chars
  rw [trimLeft, Option.mem_def] at isHead
  simpa only [isHead] using property

theorem trimRight_of_last {chars : List Char} (last : ∀ c ∈ chars.getLast?, isBlank c = false) :
    trimRight chars = chars := by
  rw [trimRight_eq_rdropWhile, List.rdropWhile_eq_self_iff]
  intro present
  rw [last _ (List.getLast?_eq_getLast_of_ne_nil present)]
  simp

theorem last_trimRight (chars : List Char) :
    ∀ c ∈ (trimRight chars).getLast?, isBlank c = false := by
  intro c isLast
  have present : trimRight chars ≠ [] := by
    intro empty
    rw [empty] at isLast
    cases isLast
  have notBlank := List.rdropWhile_last_not isBlank chars present
  rw [Option.mem_def, List.getLast?_eq_getLast_of_ne_nil present] at isLast
  obtain rfl := Option.some.inj isLast
  exact Bool.eq_false_iff.mpr notBlank

/-- Dropping blanks at the back keeps the first character of what is left. -/
theorem head_trimRight {chars : List Char} (head : ∀ c ∈ chars.head?, isBlank c = false) :
    ∀ c ∈ (trimRight chars).head?, isBlank c = false := by
  intro c isHead
  obtain ⟨rest, whole⟩ := List.rdropWhile_prefix isBlank chars
  refine head c ?_
  rw [← whole, ← trimRight_eq_rdropWhile, List.head?_append, isHead]
  rfl

theorem trimmed_trim (text : String) : Trimmed (trim text) := by
  rw [Trimmed, trim, String.toList_ofList]
  exact ⟨head_trimRight (head_trimLeft _), last_trimRight _⟩

theorem trim_of_trimmed {text : String} (trimmed : Trimmed text) : trim text = text := by
  rw [trim, trimLeft_of_head trimmed.1, trimRight_of_last trimmed.2, String.ofList_toList]

theorem trim_eq_self_iff {text : String} : trim text = text ↔ Trimmed text :=
  ⟨fun same => same ▸ trimmed_trim text, trim_of_trimmed⟩

instance (text : String) : Decidable (Trimmed text) :=
  decidable_of_iff _ trim_eq_self_iff

instance (text : String) : Decidable (Filled text) :=
  inferInstanceAs (Decidable (text ≠ "" ∧ Trimmed text))

instance (value : Option String) : Decidable (FilledIfAny value) :=
  inferInstanceAs (Decidable (∀ text ∈ value, Filled text))

theorem trim_eq_empty_iff {text : String} : trim text = "" ↔ blank text = true := by
  have allBlank : trimRight (trimLeft text.toList) = [] ↔ ∀ c ∈ text.toList, isBlank c = true := by
    rw [trimRight_eq_rdropWhile, List.rdropWhile_eq_nil_iff]
    constructor
    · intro leftBlank
      have nothingLeft : trimLeft text.toList = [] := by
        cases left : trimLeft text.toList with
        | nil => rfl
        | cons c rest =>
            have notBlank := head_trimLeft text.toList c (by rw [left]; rfl)
            have isBlank := leftBlank c (by rw [left]; exact List.mem_cons_self)
            rw [notBlank] at isBlank
            cases isBlank
      exact List.dropWhile_eq_nil_iff.mp nothingLeft
    · exact fun blanks c member => blanks c ((List.dropWhile_sublist isBlank).subset member)
  rw [trim, ← String.toList_eq_nil_iff, String.toList_ofList, allBlank, blank, List.all_eq_true]

theorem filled_trim {text : String} (notBlank : blank text = false) : Filled (trim text) := by
  refine ⟨fun empty => ?_, trimmed_trim text⟩
  rw [trim_eq_empty_iff.mp empty] at notBlank
  cases notBlank

theorem not_blank_of_filled {text : String} (filled : Filled text) : blank text = false := by
  rw [← Bool.not_eq_true, ← trim_eq_empty_iff, trim_of_trimmed filled.2]
  exact filled.1

theorem nonBlank?_eq (text : String) :
    nonBlank? text = if trim text = "" then none else some (trim text) := by
  simp only [nonBlank?, trim_eq_empty_iff]

theorem nonBlank?_of_not_blank {text : String} (notBlank : blank text = false) :
    nonBlank? text = some (trim text) := by
  rw [nonBlank?_eq, if_neg (filled_trim notBlank).1]

theorem nonBlank?_of_filled {text : String} (filled : Filled text) :
    nonBlank? text = some text := by
  rw [nonBlank?_eq, trim_of_trimmed filled.2, if_neg filled.1]

theorem filledIfAny_nonBlank? (text : String) : FilledIfAny (nonBlank? text) := by
  intro filled isFilled
  rw [nonBlank?_eq] at isFilled
  split_ifs at isFilled with empty
  · cases isFilled
  · cases isFilled
    exact ⟨empty, trimmed_trim text⟩

/-- Blanks in front of a text go with trimming. -/
theorem trim_blanks_append {blanks : List Char} (isBlanks : ∀ c ∈ blanks, isBlank c = true)
    (text : String) : trim (String.ofList (blanks ++ text.toList)) = trim text := by
  rw [trim, String.toList_ofList, trimLeft, List.dropWhile_append_of_pos isBlanks]
  rfl

/-- An optional text comes back from its field. -/
theorem nonBlank?_getD {value : Option String} (filled : FilledIfAny value) :
    nonBlank? (value.getD "") = value := by
  cases value with
  | none => rfl
  | some text => exact nonBlank?_of_filled (filled text rfl)

theorem mem_of_mem_trim {text : String} {c : Char} (member : c ∈ (trim text).toList) :
    c ∈ text.toList := by
  rw [trim, String.toList_ofList, trimRight_eq_rdropWhile] at member
  have left := (List.rdropWhile_prefix isBlank (trimLeft text.toList)).subset member
  exact (List.dropWhile_sublist isBlank).subset left

theorem isLower_iff {c : Char} : c.isLower = true ↔ c.val ≥ 'a'.val ∧ c.val ≤ 'z'.val :=
  (Bool.and_eq_true_iff).trans (and_congr decide_eq_true_iff decide_eq_true_iff)

theorem toUpper_of_not_lower {c : Char} (notLower : c.isLower = false) : c.toUpper = c := by
  have outside : ¬(c.val ≥ 'a'.val ∧ c.val ≤ 'z'.val) := by
    rw [← isLower_iff, notLower]
    exact Bool.false_ne_true
  exact dif_neg outside

/-- Only the letters a to z change, and to letters that are not blank either. -/
theorem toUpper_spec (c : Char) : isBlank c.toUpper = isBlank c ∧ c.toUpper.isLower = false := by
  have ascii : ∀ code < 128, isBlank (Char.ofNat code).toUpper = isBlank (Char.ofNat code) ∧
      (Char.ofNat code).toUpper.isLower = false := by
    decide
  by_cases isAscii : c.toNat < 128
  · simpa only [Char.ofNat_toNat] using ascii c.toNat isAscii
  · have notLower : c.isLower = false := by
      refine Bool.eq_false_iff.mpr fun isLower => isAscii ?_
      have inRange : c.toNat ≤ 122 := UInt32.le_iff_toNat_le.mp (isLower_iff.mp isLower).2
      omega
    rw [toUpper_of_not_lower notLower]
    exact ⟨rfl, notLower⟩

theorem upperAscii_of_not_lower {text : String}
    (notLower : ∀ c ∈ text.toList, c.isLower = false) : upperAscii text = text := by
  have same : text.toList.map Char.toUpper = text.toList.map id :=
    List.map_congr_left fun c member => toUpper_of_not_lower (notLower c member)
  rw [upperAscii, same, List.map_id, String.ofList_toList]

theorem not_lower_of_mem_upperAscii {text : String} {c : Char}
    (member : c ∈ (upperAscii text).toList) : c.isLower = false := by
  rw [upperAscii, String.toList_ofList] at member
  obtain ⟨original, _, rfl⟩ := List.mem_map.mp member
  exact (toUpper_spec original).2

theorem filled_upperAscii {text : String} (filled : Filled text) : Filled (upperAscii text) := by
  obtain ⟨notEmpty, head, last⟩ := filled
  refine ⟨?_, ?_, ?_⟩
  · intro empty
    rw [upperAscii, ← String.toList_eq_nil_iff, String.toList_ofList, List.map_eq_nil_iff,
      String.toList_eq_nil_iff] at empty
    exact notEmpty empty
  · intro c isHead
    rw [upperAscii, String.toList_ofList, List.head?_map, Option.mem_def,
      Option.map_eq_some_iff] at isHead
    obtain ⟨original, isOriginal, rfl⟩ := isHead
    rw [(toUpper_spec original).1]
    exact head original isOriginal
  · intro c isLast
    rw [upperAscii, String.toList_ofList, List.getLast?_map, Option.mem_def,
      Option.map_eq_some_iff] at isLast
    obtain ⟨original, isOriginal, rfl⟩ := isLast
    rw [(toUpper_spec original).1]
    exact last original isOriginal

/-- A text is one of the spellings of its lower-case form. -/
theorem mem_spellings (text : String) :
    text.toList ∈ ((lowerAscii text).toList.map fun c => [c, c.toUpper]).sections := by
  have ascii : ∀ code < 128, Char.ofNat code ∈
      [(Char.ofNat code).toLower, (Char.ofNat code).toLower.toUpper] := by
    decide
  have spelled (c : Char) : c ∈ [c.toLower, c.toLower.toUpper] := by
    by_cases isAscii : c.toNat < 128
    · simpa only [Char.ofNat_toNat] using ascii c.toNat isAscii
    · have noCapital : ¬(c.val ≥ 'A'.val ∧ c.val ≤ 'Z'.val) := fun isCapital =>
        isAscii (lt_of_le_of_lt (UInt32.le_iff_toNat_le.mp isCapital.2) (by decide))
      have same : c.toLower = c := dif_neg noCapital
      rw [same]
      exact List.mem_cons_self
  rw [List.mem_sections, lowerAscii, String.toList_ofList, List.map_map,
    List.forall₂_map_right_iff, List.forall₂_same]
  intro c _
  exact spelled c

end Text

end ConnectorConsole
