import ConnectorConsole.Proofs.Json.Ordering
import ConnectorConsole.Proofs.Json.Scanning

/-!
# Values that were read

Whatever text a value was read from, its entries are in ascending order of keys, its
integers fit a machine word, and its containers are nested no deeper than was allowed.
-/

namespace ConnectorConsole

open Scan

namespace Scan.Yields

variable {α : Type} {property : α → Prop}

theorem fail (problem : JsonProblem) : Yields (fail problem) property :=
  .throw _

theorem failHere (fault : SyntaxFault) : Yields (failHere fault) property :=
  after fun _ => .throw _

theorem failAhead (fault : SyntaxFault) : Yields (failAhead fault) property :=
  after fun _ => .throw _

end Scan.Yields

namespace Numeral

theorem absorb_lt (digits : List Char) {value : Nat} (fits : value < UInt64.size) :
    (absorb value digits).1 < UInt64.size := by
  induction digits generalizing value with
  | nil => exact fits
  | cons digit rest ih =>
      rw [absorb]
      split_ifs with extended
      · exact ih extended
      · exact fits

theorem sized_whole (negative : Bool) {digits : Nat} (fits : digits < UInt64.size) :
    (whole negative digits).Sized := by
  have word : UInt64.size = 2 ^ 64 := rfl
  rw [word] at fits
  rw [whole, word]
  split_ifs with positive small
  · exact ⟨by omega, by omega⟩
  · exact ⟨by omega, by omega⟩
  · exact True.intro

theorem readScaled_yields (negative : Bool) (digits : Nat) (exponent : Int) :
    Yields (readScaled negative digits exponent) JsonNumber.Sized := by
  rw [readScaled]
  split
  · exact .pure True.intro
  · exact .failHere _

theorem readExponent_yields (negative : Bool) (digits : Nat) (start : Int) :
    Yields (readExponent negative digits start) JsonNumber.Sized := by
  rw [readExponent]
  refine .after fun _ => .after fun sign => ?_
  extract_lets goOn
  have power (below : Bool) : Yields (goOn below) JsonNumber.Sized := by
    refine .after fun next => ?_
    split
    · exact .failHere _
    split
    · exact .failAhead _
    refine .after fun _ => .after fun power => ?_
    dsimp only
    split
    · exact readScaled_yields _ _ _
    split
    · exact .throw _
    · exact .pure True.intro
  split
  · exact .after fun _ => .after power
  · exact .after fun _ => .after power
  · exact .after power

theorem readAfterDigits_yields (negative : Bool) (digits : Nat) (exponent : Int) :
    Yields (readAfterDigits negative digits exponent) JsonNumber.Sized := by
  rw [readAfterDigits]
  refine .after fun next => ?_
  split
  · exact readExponent_yields _ _ _
  · exact readExponent_yields _ _ _
  · exact readScaled_yields _ _ _

theorem readFraction_yields (negative : Bool) (digits leftOut : Nat) :
    Yields (readFraction negative digits leftOut) JsonNumber.Sized := by
  rw [readFraction]
  refine .after fun _ => .after fun places => ?_
  split
  · refine .after fun next => ?_
    split
    · exact .failHere _
    · exact .failAhead _
  · exact readAfterDigits_yields _ _ _

theorem readAfterWhole_yields (negative : Bool) {digits : Nat} (fits : digits < UInt64.size)
    (leftOut : Nat) : Yields (readAfterWhole negative digits leftOut) JsonNumber.Sized := by
  rw [readAfterWhole]
  refine .after fun next => ?_
  split
  · exact readFraction_yields _ _ _
  · exact readExponent_yields _ _ _
  · exact readExponent_yields _ _ _
  split
  · exact .pure (sized_whole negative fits)
  · exact readScaled_yields _ _ _

theorem readUnsigned_yields (negative : Bool) :
    Yields (readUnsigned negative) JsonNumber.Sized := by
  have zeroFits : 0 < UInt64.size := by decide
  rw [readUnsigned]
  refine .after fun first => ?_
  split
  · exact .failHere _
  · refine .after fun _ => .after fun next => ?_
    split
    · split
      · exact .failAhead _
      · exact readAfterWhole_yields negative zeroFits 0
    · exact readAfterWhole_yields negative zeroFits 0
  split
  · exact .after fun digits => readAfterWhole_yields negative (absorb_lt digits zeroFits) _
  · exact .failAhead _

/-- Every integer that is read fits a machine word. -/
theorem read_yields : Yields Numeral.read JsonNumber.Sized := by
  rw [Numeral.read]
  refine .after fun first => ?_
  split
  · exact .after fun _ => readUnsigned_yields true
  · exact readUnsigned_yields false

end Numeral

namespace Json

theorem readItems_yields {item : Scan Json} {property : Json → Prop}
    (yields : Yields item property) (steps : Nat) (first : Bool) :
    Yields (readItems item steps first) fun items => ∀ value ∈ items, property value := by
  induction steps generalizing first with
  | zero => exact .failHere _
  | succ steps ih =>
      have next : Yields (do
          let value ← item
          return value :: (← readItems item steps false))
          fun items => ∀ value ∈ items, property value :=
        yields.bind fun value holds => (ih false).bind fun rest restHolds =>
          .pure (List.forall_mem_cons.mpr ⟨holds, restHolds⟩)
      rw [readItems]
      refine .after fun token => ?_
      split
      · exact .failAhead _
      split
      · exact .pure (List.forall_mem_nil _)
      split
      · exact next
      split
      · refine .after fun _ => .after fun token => ?_
        split
        · exact .failAhead _
        split
        · exact .failAhead _
        · exact next
      · exact .failAhead _

theorem readEntries_yields {value : Scan Json} {property : Json → Prop}
    (yields : Yields value property) (steps : Nat) (first : Bool) :
    Yields (readEntries value steps first)
      fun entries => ∀ entry ∈ entries, property entry.2 := by
  induction steps generalizing first with
  | zero => exact .failHere _
  | succ steps ih =>
      rw [readEntries]
      refine .after fun follows => ?_
      split
      · refine .after fun key => .after fun _ => yields.bind fun held holds => ?_
        exact (ih false).bind fun rest restHolds =>
          .pure (List.forall_mem_cons.mpr ⟨holds, restHolds⟩)
      · exact .pure (List.forall_mem_nil _)

/-- What holds of every value that is read with so many containers allowed. -/
structure ReadWithin (depth : Nat) (value : Json) : Prop where
  ordered : value.Ordered
  sized : value.MachineSized
  shallow : value.nesting ≤ depth

theorem ReadWithin.null (depth : Nat) : ReadWithin depth .null :=
  ⟨by simp, by simp [MachineSized], Nat.zero_le depth⟩

theorem ReadWithin.boolean (depth : Nat) (value : Bool) : ReadWithin depth (.boolean value) :=
  ⟨by simp, by simp [MachineSized], Nat.zero_le depth⟩

theorem ReadWithin.text (depth : Nat) (value : String) : ReadWithin depth (.text value) :=
  ⟨by simp, by simp [MachineSized], Nat.zero_le depth⟩

theorem ReadWithin.number (depth : Nat) {value : JsonNumber} (sized : value.Sized) :
    ReadWithin depth (.number value) :=
  ⟨by simp, everywhere_number.mpr sized, Nat.zero_le depth⟩

theorem ReadWithin.list {depth : Nat} {items : List Json}
    (inside : ∀ item ∈ items, ReadWithin depth item) : ReadWithin (depth + 1) (.list items) where
  ordered := ordered_list.mpr fun item member => (inside item member).ordered
  sized := everywhere_list.mpr ⟨True.intro, fun item member => (inside item member).sized⟩
  shallow := Nat.succ_le_succ <|
    nestingItems_le_iff.mpr fun item member => (inside item member).shallow

theorem ReadWithin.object {depth : Nat} {entries : List (String × Json)}
    (inside : ∀ entry ∈ entries, ReadWithin depth entry.2) :
    ReadWithin (depth + 1) (.object (sortedEntries entries)) := by
  have sortedInside (entry : String × Json) (member : entry ∈ sortedEntries entries) :
      ReadWithin depth entry.2 :=
    inside entry (mem_of_mem_sortedEntries member)
  refine ⟨ordered_object.mpr ⟨sortedEntries_ascending entries, ?_⟩,
    everywhere_object.mpr ⟨True.intro, ?_⟩, Nat.succ_le_succ (nestingEntries_le_iff.mpr ?_)⟩
  · exact fun entry member => (sortedInside entry member).ordered
  · exact fun entry member => (sortedInside entry member).sized
  · exact fun entry member => (sortedInside entry member).shallow

theorem readConstant_yields (letters : List Char) {value : Json} {property : Json → Prop}
    (holds : property value) : Yields (readConstant letters value) property :=
  .after fun _ => .after fun _ => .pure holds

theorem readValueWith_yields {inside : Option (Scan Json)} {depth : Nat}
    (deeper : ∀ scan ∈ inside, ∃ less, depth = less + 1 ∧ Yields scan (ReadWithin less)) :
    Yields (readValueWith inside) (ReadWithin depth) := by
  rw [readValueWith.eq_def]
  refine .after fun token => ?_
  split
  · exact .failAhead _
  split
  · exact readConstant_yields _ (.null depth)
  split
  · exact readConstant_yields _ (.boolean depth true)
  split
  · exact readConstant_yields _ (.boolean depth false)
  split
  · exact Numeral.read_yields.bind fun number sized => .pure (.number depth sized)
  split
  · exact .after fun _ => .after fun text => .pure (.text depth text)
  split
  · cases inside with
    | none => exact .failAhead _
    | some scan =>
        obtain ⟨less, rfl, yields⟩ := deeper scan rfl
        refine .after fun _ => .after fun steps => ?_
        exact (readItems_yields yields steps true).closing.bind fun items holds =>
          .pure (.list holds)
  split
  · cases inside with
    | none => exact .failAhead _
    | some scan =>
        obtain ⟨less, rfl, yields⟩ := deeper scan rfl
        refine .after fun _ => .after fun steps => ?_
        exact (readEntries_yields yields steps true).closing.bind fun entries holds =>
          .pure (.object holds)
  · exact .failAhead _

/-- Whatever is read has its entries in order, its integers in a machine word and its
containers nested no deeper than was allowed. -/
theorem readValue_yields (depth : Nat) : Yields (readValue depth) (ReadWithin depth) := by
  induction depth with
  | zero => exact readValueWith_yields (by simp)
  | succ depth ih =>
      refine readValueWith_yields ?_
      rintro _ ⟨⟩
      exact ⟨depth, rfl, ih⟩

theorem scanText_yields {α : Type} {scan : Scan α} {property : α → Prop}
    (yields : Yields scan property) {text : String} {value : α}
    (isRead : scanText scan text = .ok value) : property value := by
  have whole : Yields (do let value ← scan; endText; return value) property :=
    yields.bind fun _ holds => .after fun _ => .pure holds
  rw [scanText] at isRead
  split at isRead
  · cases isRead
    exact whole _ _ _ ‹_›
  · cases isRead

/-- What holds of every value that a text writes. -/
theorem readWithin_of_read {text : String} {value : Json} (isRead : read text = .ok value) :
    ReadWithin greatestDepth value :=
  scanText_yields (readValue_yields greatestDepth) isRead

end Json

end ConnectorConsole
