import ConnectorConsole.Proofs.Json.Containers
import ConnectorConsole.Proofs.Json.Ordering

/-!
# Written values read back

Both written forms put filler at the same places: before what stands inside a
container, before its closing bracket, and after a colon.  Whatever the filler is, a
value without floating-point numbers is read back with its entries sorted, as long as
its containers are not nested too deep.
-/

namespace ConnectorConsole

namespace Json

open Scan

/-- A way to write values. -/
structure Spacing where
  /-- A value inside so many containers. -/
  chars : Nat → Json → List Char
  gap : Nat → List Char
  afterColon : List Char
  gap_filler : ∀ depth, Filler (gap depth)
  afterColon_filler : Filler afterColon
  chars_null : ∀ depth, chars depth .null = ['n', 'u', 'l', 'l']
  chars_boolean : ∀ depth value, chars depth (.boolean value) = wordChars value
  chars_number : ∀ depth value, chars depth (.number value) = numberChars value
  chars_text : ∀ depth value, chars depth (.text value) = stringChars value
  chars_list : ∀ depth items, chars depth (.list items) =
    bracketed '[' ']' (gap (depth + 1)) (gap depth) (chars (depth + 1)) items
  chars_object : ∀ depth entries, chars depth (.object entries) =
    bracketed '\x7b' '\x7d' (gap (depth + 1)) (gap depth)
      (entryChars afterColon (chars (depth + 1))) entries

namespace Spacing

theorem indentedItems_cons (depth : Nat) (item : Json) (rest : List Json) :
    '[' :: indentedItems depth (item :: rest) =
      bracketed '[' ']' (lineBreak (depth + 1)) (lineBreak depth) (indentedChars (depth + 1))
        (item :: rest) := by
  induction rest generalizing item with
  | nil => simp [indentedItems, bracketed, furtherChars]
  | cons next rest ih =>
      have further := List.cons.inj (ih next)
      simp [indentedItems, bracketed, furtherChars, further.2]

theorem indentedEntries_cons (depth : Nat) (entry : String × Json)
    (rest : List (String × Json)) :
    '\x7b' :: indentedEntries depth (entry :: rest) =
      bracketed '\x7b' '\x7d' (lineBreak (depth + 1)) (lineBreak depth)
        (entryChars [' '] (indentedChars (depth + 1))) (entry :: rest) := by
  induction rest generalizing entry with
  | nil => simp [indentedEntries, bracketed, furtherChars, entryChars]
  | cons next rest ih =>
      have further := List.cons.inj (ih next)
      simp [indentedEntries, bracketed, furtherChars, entryChars, further.2]

/-- Items and entries on lines of their own. -/
def lines : Spacing where
  chars := indentedChars
  gap := lineBreak
  afterColon := [' ']
  gap_filler depth := by simp [Filler, lineBreak, Cursor.isFiller]
  afterColon_filler := by simp [Filler, Cursor.isFiller]
  chars_null depth := by rw [indentedChars]
  chars_boolean depth value := by rw [indentedChars]
  chars_number depth value := by rw [indentedChars]
  chars_text depth value := by rw [indentedChars]
  chars_list depth items := by
    cases items with
    | nil => rw [indentedChars, bracketed]
    | cons item rest => rw [indentedChars, indentedItems_cons]
  chars_object depth entries := by
    cases entries with
    | nil => rw [indentedChars, bracketed]
    | cons entry rest => rw [indentedChars, indentedEntries_cons]

theorem compactItems_cons (item : Json) (rest : List Json) :
    '[' :: compactItems (item :: rest) = bracketed '[' ']' [] [] compactChars (item :: rest) := by
  induction rest generalizing item with
  | nil => simp [compactItems, bracketed, furtherChars]
  | cons next rest ih =>
      have further := List.cons.inj (ih next)
      simp [compactItems, bracketed, furtherChars, further.2]

theorem compactEntries_cons (entry : String × Json) (rest : List (String × Json)) :
    '\x7b' :: compactEntries (entry :: rest) =
      bracketed '\x7b' '\x7d' [] [] (entryChars [] compactChars) (entry :: rest) := by
  induction rest generalizing entry with
  | nil => simp [compactEntries, bracketed, furtherChars, entryChars]
  | cons next rest ih =>
      have further := List.cons.inj (ih next)
      simp [compactEntries, bracketed, furtherChars, entryChars, further.2]

/-- No filler at all. -/
def tight : Spacing where
  chars _ := compactChars
  gap _ := []
  afterColon := []
  gap_filler _ := List.forall_mem_nil _
  afterColon_filler := List.forall_mem_nil _
  chars_null _ := by rw [compactChars]
  chars_boolean _ value := by rw [compactChars]
  chars_number _ value := by rw [compactChars]
  chars_text _ value := by rw [compactChars]
  chars_list _ items := by
    cases items with
    | nil => rw [compactChars, compactItems, bracketed]
    | cons item rest => rw [compactChars, compactItems_cons]
  chars_object _ entries := by
    cases entries with
    | nil => rw [compactChars, compactEntries, bracketed]
    | cons entry rest => rw [compactChars, compactEntries_cons]

end Spacing

theorem integerChars_head (value : Int) : ∃ c rest, integerChars value = c :: rest ∧
    (c = '-' || isDigit c) = true := by
  cases value with
  | ofNat size =>
      obtain ⟨c, rest, digits⟩ : ∃ c rest, Binary64.digitsOf size = c :: rest :=
        List.exists_cons_of_ne_nil Nat.toDigits_ne_nil
      have isOne : isDigit c = true := Binary64.isDigit_of_mem_digitsOf (by rw [digits]; simp)
      exact ⟨c, rest, digits, by simp [isOne]⟩
  | negSucc size => exact ⟨'-', _, rfl, rfl⟩

theorem numeral_head {c : Char} (opens : (c = '-' || isDigit c) = true) :
    Cursor.isFiller c = false ∧ c ≠ ']' ∧ c ≠ 'n' ∧ c ≠ 't' ∧ c ≠ 'f' := by
  refine ⟨Bool.eq_false_iff.mpr fun isFiller => ?_, ?_, ?_, ?_, ?_⟩
  · simp only [Cursor.isFiller, Bool.or_eq_true, decide_eq_true_eq] at isFiller
    rcases isFiller with ((rfl | rfl) | rfl) | rfl <;> cases opens
  all_goals rintro rfl; cases opens

namespace Spacing

variable (spacing : Spacing)

/-- A written value begins with a character that is neither filler nor a closing
bracket. -/
theorem chars_head {value : Json} (floatFree : value.FloatFree) (depth : Nat) :
    ∃ c rest, spacing.chars depth value = c :: rest ∧ Cursor.isFiller c = false ∧ c ≠ ']' := by
  cases value with
  | null => exact ⟨_, _, spacing.chars_null depth, by decide⟩
  | boolean value =>
      cases value
      · exact ⟨_, _, spacing.chars_boolean depth false, by decide⟩
      · exact ⟨_, _, spacing.chars_boolean depth true, by decide⟩
  | number value =>
      cases value with
      | integer value =>
          obtain ⟨c, rest, digits, opens⟩ := integerChars_head value
          obtain ⟨notFiller, notClosing, _⟩ := numeral_head opens
          exact ⟨c, rest, by rw [spacing.chars_number, numberChars, digits], notFiller, notClosing⟩
      | double value => exact absurd rfl (floatFree _ (.self _) value)
  | text value => exact ⟨_, _, spacing.chars_text depth value, by decide⟩
  | list items =>
      rw [spacing.chars_list]
      cases items <;> exact ⟨_, _, rfl, by decide⟩
  | object entries =>
      rw [spacing.chars_object]
      cases entries <;> exact ⟨_, _, rfl, by decide⟩

/-- Words, numerals and strings are read at every depth. -/
theorem readValue_eq (allowed : Nat) : ∃ inside, readValue allowed = readValueWith inside := by
  cases allowed with
  | zero => exact ⟨none, rfl⟩
  | succ allowed => exact ⟨some (readValue allowed), rfl⟩

theorem reads_word (letters : List Char) (value : Json) (c : Char) (after : List Char) :
    Reads (readConstant letters value) (c :: (letters ++ after)) value after := by
  have word : ∀ letters : List Char, Reads (readWord letters) (letters ++ after) () after := by
    intro letters
    induction letters with
    | nil => exact .pure _ _
    | cons letter rest ih =>
        refine (Reads.peek _).bind ?_
        simp only [List.cons_append, List.head?_cons, ↓reduceIte]
        exact (Reads.bump letter _).bind ih
  exact (Reads.bump c _).bind ((word letters).bind (.pure _ _))

/-- A written value is read back with its entries sorted. -/
theorem reads_value {value : Json} (floatFree : value.FloatFree) (sized : value.MachineSized)
    {allowed : Nat} (shallow : value.nesting ≤ allowed) (depth : Nat) {filler : List Char}
    (isFiller : Filler filler) {after : List Char} (stops : Stops Numeral.continues after) :
    Reads (readValue allowed) (filler ++ (spacing.chars depth value ++ after)) value.sorted
      after := by
  have token : ∀ {value : Json}, value.FloatFree → ∀ depth {filler}, Filler filler → ∀ after,
      Reads peekToken (filler ++ (spacing.chars depth value ++ after))
        (spacing.chars depth value).head? (spacing.chars depth value ++ after) := by
    intro value floatFree depth filler isFiller after
    obtain ⟨c, rest, first, notFiller, _⟩ := spacing.chars_head floatFree depth
    rw [first]
    exact Reads.peekToken isFiller (stops_cons.mpr notFiller)
  induction value generalizing allowed depth filler after with
  | null =>
      obtain ⟨inside, unfolded⟩ := readValue_eq allowed
      rw [unfolded, readValueWith.eq_def]
      refine (token floatFree depth isFiller after).bind ?_
      rw [spacing.chars_null]
      exact reads_word ['u', 'l', 'l'] .null 'n' after
  | boolean value =>
      obtain ⟨inside, unfolded⟩ := readValue_eq allowed
      rw [unfolded, readValueWith.eq_def]
      refine (token floatFree depth isFiller after).bind ?_
      rw [spacing.chars_boolean]
      cases value with
      | true => exact reads_word ['r', 'u', 'e'] (.boolean true) 't' after
      | false => exact reads_word ['a', 'l', 's', 'e'] (.boolean false) 'f' after
  | number value =>
      cases value with
      | double value => exact absurd rfl (floatFree _ (.self _) value)
      | integer value =>
          obtain ⟨inside, unfolded⟩ := readValue_eq allowed
          obtain ⟨c, rest, digits, opens⟩ := integerChars_head value
          obtain ⟨_, _, notN, notT, notF⟩ := numeral_head opens
          obtain ⟨least, greatest⟩ := everywhere_number.mp sized
          rw [unfolded, readValueWith.eq_def]
          refine (token floatFree depth isFiller after).bind ?_
          rw [spacing.chars_number, numberChars]
          simp only [digits, List.head?_cons, notN, notT, notF, opens, ↓reduceIte]
          rw [← digits]
          exact (Numeral.reads_integer least greatest stops).map Json.number
  | text value =>
      obtain ⟨inside, unfolded⟩ := readValue_eq allowed
      have shape : stringChars value ++ after =
          '"' :: (value.toList.flatMap escapedChar ++ '"' :: after) := by
        simp [stringChars]
      rw [unfolded, readValueWith.eq_def]
      refine (token floatFree depth isFiller after).bind ?_
      rw [spacing.chars_text, shape]
      exact (Reads.bump '"' _).bind ((JsonString.reads_text value after).map Json.text)
  | list items ih =>
      cases allowed with
      | zero => contradiction
      | succ allowed =>
          have itemsFree := (everywhere_list.mp floatFree).2
          have itemsSized := (everywhere_list.mp sized).2
          have itemsShallow := nestingItems_le_iff.mp (Nat.le_of_succ_le_succ shallow)
          have reads := reads_items (spacing.gap_filler (depth + 1)) (spacing.gap_filler depth)
            (fun item member => spacing.chars_head (itemsFree item member) (depth + 1))
            (fun item member after stops =>
              ih item member (itemsFree item member) (itemsSized item member)
                (itemsShallow item member) (depth + 1) (List.forall_mem_nil _) stops) after
          have opening : (spacing.chars depth (.list items)).head? = some '[' := by
            rw [spacing.chars_list]
            cases items <;> rfl
          rw [readValue, readValueWith.eq_def, sorted, sortedItems_eq_map]
          refine (token floatFree depth isFiller after).bind ?_
          rw [opening, spacing.chars_list]
          exact reads
  | object entries ih =>
      cases allowed with
      | zero => contradiction
      | succ allowed =>
          have entriesFree := (everywhere_object.mp floatFree).2
          have entriesSized := (everywhere_object.mp sized).2
          have entriesShallow := nestingEntries_le_iff.mp (Nat.le_of_succ_le_succ shallow)
          have reads := reads_entries (spacing.gap_filler (depth + 1)) (spacing.gap_filler depth)
            (fun entry member after stops =>
              ih entry member (entriesFree entry member) (entriesSized entry member)
                (entriesShallow entry member) (depth + 1) spacing.afterColon_filler stops) after
          have opening : (spacing.chars depth (.object entries)).head? = some '\x7b' := by
            rw [spacing.chars_object]
            cases entries <;> rfl
          rw [readValue, readValueWith.eq_def, sorted, sortedValues_eq_map]
          refine (token floatFree depth isFiller after).bind ?_
          rw [opening, spacing.chars_object]
          exact reads

end Spacing

/-- A scan that reads a whole text decides what the text is taken for. -/
theorem scanText_of_reads {α : Type} {scan : Scan α} {text : String} {value : α}
    (reads : Reads scan text.toList value []) : scanText scan text = .ok value := by
  have ends : Reads endText [] () [] :=
    (Reads.peekToken (List.forall_mem_nil _) (stops_nil _)).bind (.pure _ _)
  have whole : Reads (do let value ← scan; endText; return value) text.toList value [] :=
    reads.bind (ends.bind (.pure _ _))
  obtain ⟨last, isWhole⟩ := whole Mark.start
  rw [scanText, Cursor.ofText, isWhole]

/-- A written value is read back with its entries sorted, as a text of its own. -/
theorem Spacing.read_chars (spacing : Spacing) {value : Json} (floatFree : value.FloatFree)
    (sized : value.MachineSized) (shallow : value.nesting ≤ greatestDepth) :
    read (String.ofList (spacing.chars 0 value)) = .ok value.sorted := by
  refine scanText_of_reads ?_
  have reads := spacing.reads_value floatFree sized shallow 0 (List.forall_mem_nil _) (stops_nil _)
  rw [List.nil_append, List.append_nil] at reads
  rw [String.toList_ofList]
  exact reads

/-- The indented form is read back with its entries sorted. -/
theorem read_indented {value : Json} (floatFree : value.FloatFree) (sized : value.MachineSized)
    (shallow : value.nesting ≤ greatestDepth) : read value.indented = .ok value.sorted :=
  Spacing.lines.read_chars floatFree sized shallow

/-- The compact form is read back with its entries sorted. -/
theorem read_compact {value : Json} (floatFree : value.FloatFree) (sized : value.MachineSized)
    (shallow : value.nesting ≤ greatestDepth) : read value.compact = .ok value.sorted :=
  Spacing.tight.read_chars floatFree sized shallow

end Json

end ConnectorConsole
