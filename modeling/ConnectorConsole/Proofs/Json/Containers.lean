import ConnectorConsole.Json.Printer
import ConnectorConsole.Proofs.Json.Scalars

/-!
# Containers read back

A list or an object is written between brackets, with commas between what it holds and
filler before each item and before the closing bracket.  Whatever reads the items one by
one reads the whole container up to its closing bracket.
-/

namespace ConnectorConsole

namespace Json

open Scan

/-- Characters that may stand between tokens. -/
def Filler (chars : List Char) : Prop :=
  ∀ c ∈ chars, Cursor.isFiller c = true

/-- What follows the first item of a container. -/
def furtherChars {α : Type} (gap : List Char) (render : α → List Char) (rest : List α) :
    List Char :=
  rest.flatMap fun item => ',' :: (gap ++ render item)

/-- A container with filler before its items and before its closing bracket. -/
def bracketed {α : Type} (opening closing : Char) (gap ending : List Char)
    (render : α → List Char) : List α → List Char
  | [] => [opening, closing]
  | item :: rest =>
    opening :: (gap ++ (render item ++ (furtherChars gap render rest ++ (ending ++ [closing]))))

/-- An entry with filler after its colon. -/
def entryChars (afterColon : List Char) (render : Json → List Char) (entry : String × Json) :
    List Char :=
  stringChars entry.1 ++ ':' :: (afterColon ++ render entry.2)

theorem Filler.stops {filler rest : List Char} (isFiller : Filler filler)
    (stops : Stops Numeral.continues rest) : Stops Numeral.continues (filler ++ rest) := by
  cases filler with
  | nil => exact stops
  | cons c filler =>
      have isOne := isFiller c List.mem_cons_self
      simp only [Cursor.isFiller, Bool.or_eq_true, decide_eq_true_eq] at isOne
      rcases isOne with ((rfl | rfl) | rfl) | rfl <;> exact stops_cons.mpr rfl

theorem stops_further {α : Type} {gap ending after : List Char} (render : α → List Char)
    (rest : List α) (isFiller : Filler ending) (stops : Stops Numeral.continues after) :
    Stops Numeral.continues (furtherChars gap render rest ++ (ending ++ after)) := by
  cases rest with
  | nil => exact isFiller.stops stops
  | cons item rest => exact stops_cons.mpr rfl

theorem length_le_furtherChars {α : Type} (gap : List Char) (render : α → List Char)
    (rest : List α) : rest.length ≤ (furtherChars gap render rest).length := by
  induction rest with
  | nil => exact le_rfl
  | cons item rest ih =>
      simp only [furtherChars, List.flatMap_cons, List.length_append, List.length_cons] at ih ⊢
      omega

/-- A text holds a character for every item of a container that it goes on with. -/
theorem length_lt_container {α : Type} (gap first ending after : List Char)
    (render : α → List Char) (closing : Char) (rest : List α) :
    rest.length < (gap ++ (first ++
      (furtherChars gap render rest ++ (ending ++ closing :: after)))).length := by
  have further := length_le_furtherChars gap render rest
  simp only [List.length_append, List.length_cons]
  omega

section Items

variable {item : Scan Json} {render : Json → List Char} {result : Json → Json}
  {gap ending : List Char} {items : List Json}

/-- The items of a list after the first one are read up to its closing bracket. -/
theorem reads_furtherItems (gapFiller : Filler gap) (endingFiller : Filler ending)
    (opens : ∀ value ∈ items, ∃ c rest, render value = c :: rest ∧
      Cursor.isFiller c = false ∧ c ≠ ']')
    (reads : ∀ value ∈ items, ∀ after, Stops Numeral.continues after →
      Reads item (render value ++ after) (result value) after)
    {steps : Nat} (enough : items.length < steps) (after : List Char) :
    Reads (readItems item steps false)
      (furtherChars gap render items ++ (ending ++ ']' :: after)) (items.map result)
      (']' :: after) := by
  induction items generalizing steps with
  | nil =>
      cases steps with
      | zero => contradiction
      | succ steps =>
          refine (Reads.peekToken endingFiller (stops_cons.mpr rfl)).bind ?_
          exact .pure _ _
  | cons value rest ih =>
      cases steps with
      | zero => contradiction
      | succ steps =>
          obtain ⟨readsFirst, readsRest⟩ := List.forall_mem_cons.mp reads
          obtain ⟨⟨c, tail, first, notFiller, notClosing⟩, opensRest⟩ :=
            List.forall_mem_cons.mp opens
          have shape : furtherChars gap render (value :: rest) ++ (ending ++ ']' :: after) =
              ',' :: (gap ++ (render value ++
                (furtherChars gap render rest ++ (ending ++ ']' :: after)))) := by
            simp [furtherChars]
          have stops : Stops Numeral.continues
              (furtherChars gap render rest ++ (ending ++ ']' :: after)) :=
            stops_further render rest endingFiller (stops_cons.mpr rfl)
          have more := ih opensRest readsRest (Nat.lt_of_succ_lt_succ enough)
          rw [shape, readItems]
          refine (Reads.token _ rfl).bind ?_
          simp only [Char.reduceEq, Bool.false_eq_true, ↓reduceIte]
          refine (Reads.bump ',' _).bind ?_
          refine (Reads.peekToken gapFiller (by simp [first, notFiller])).bind ?_
          simp only [first, List.cons_append, List.head?_cons, notClosing, ↓reduceIte]
          rw [← List.cons_append, ← first]
          exact (readsFirst _ stops).bind (more.bind (.pure _ _))

/-- The items of a list are read up to its closing bracket. -/
theorem reads_items (gapFiller : Filler gap) (endingFiller : Filler ending)
    (opens : ∀ value ∈ items, ∃ c rest, render value = c :: rest ∧
      Cursor.isFiller c = false ∧ c ≠ ']')
    (reads : ∀ value ∈ items, ∀ after, Stops Numeral.continues after →
      Reads item (render value ++ after) (result value) after) (after : List Char) :
    Reads (do
        bump
        let steps ← stepsLeft
        return Json.list (← closing (readItems item steps true) endList))
      (bracketed '[' ']' gap ending render items ++ after) (.list (items.map result)) after := by
  have ends : Reads endList (']' :: after) () after :=
    (Reads.token _ rfl).bind (Reads.bump ']' after)
  cases items with
  | nil =>
      have none : Reads (readItems item (after.length + 1 + 1) true) (']' :: after) []
          (']' :: after) :=
        (Reads.token _ rfl).bind (.pure _ _)
      exact (Reads.bump '[' _).bind ((Reads.stepsLeft _).bind ((none.closing ends).map Json.list))
  | cons value rest =>
      obtain ⟨readsFirst, readsRest⟩ := List.forall_mem_cons.mp reads
      obtain ⟨⟨c, tail, first, notFiller, notClosing⟩, opensRest⟩ :=
        List.forall_mem_cons.mp opens
      have shape : bracketed '[' ']' gap ending render (value :: rest) ++ after =
          '[' :: (gap ++ (render value ++
            (furtherChars gap render rest ++ (ending ++ ']' :: after)))) := by
        simp [bracketed]
      have stops : Stops Numeral.continues
          (furtherChars gap render rest ++ (ending ++ ']' :: after)) :=
        stops_further render rest endingFiller (stops_cons.mpr rfl)
      rw [shape]
      refine (Reads.bump '[' _).bind ((Reads.stepsLeft _).bind ?_)
      have enough := length_lt_container gap (render value) ending after render ']' rest
      have more := reads_furtherItems gapFiller endingFiller opensRest readsRest enough after
      refine Reads.map Json.list (Reads.closing ?_ ends)
      rw [readItems]
      refine (Reads.peekToken gapFiller (by simp [first, notFiller])).bind ?_
      simp only [first, List.cons_append, List.head?_cons, notClosing, ↓reduceIte]
      rw [← List.cons_append, ← first]
      exact (readsFirst _ stops).bind (more.bind (.pure _ _))

end Items

theorem reads_key (key : String) (after : List Char) :
    Reads readKey (stringChars key ++ after) key after := by
  have shape : stringChars key ++ after =
      '"' :: (key.toList.flatMap escapedChar ++ '"' :: after) := by
    simp [stringChars]
  rw [shape]
  exact (Reads.bump '"' _).bind (JsonString.reads_text key after)

section Entries

variable {value : Scan Json} {render : Json → List Char} {result : Json → Json}
  {gap ending afterColon : List Char} {entries : List (String × Json)}

/-- One entry is read up to the character that follows it. -/
theorem reads_entry {entry : String × Json} {after : List Char}
    (reads : Reads value (afterColon ++ (render entry.2 ++ after)) (result entry.2) after)
    {next : List (String × Json)} {rest : List Char} {more : Scan (List (String × Json))}
    (readsMore : Reads more after next rest) :
    Reads (do
        let key ← readKey
        readColon
        let held ← value
        return (key, held) :: (← more))
      (entryChars afterColon render entry ++ after) ((entry.1, result entry.2) :: next) rest := by
  have shape : entryChars afterColon render entry ++ after =
      stringChars entry.1 ++ ':' :: (afterColon ++ (render entry.2 ++ after)) := by
    simp [entryChars]
  have colon : Reads readColon (':' :: (afterColon ++ (render entry.2 ++ after))) ()
      (afterColon ++ (render entry.2 ++ after)) :=
    (Reads.token _ rfl).bind (Reads.bump ':' _)
  rw [shape]
  exact (reads_key entry.1 _).bind (colon.bind (reads.bind (readsMore.bind (.pure _ _))))

/-- The entries of an object after the first one are read up to its closing brace. -/
theorem reads_furtherEntries (gapFiller : Filler gap) (endingFiller : Filler ending)
    (reads : ∀ entry ∈ entries, ∀ after, Stops Numeral.continues after →
      Reads value (afterColon ++ (render entry.2 ++ after)) (result entry.2) after)
    {steps : Nat} (enough : entries.length < steps) (after : List Char) :
    Reads (readEntries value steps false)
      (furtherChars gap (entryChars afterColon render) entries ++ (ending ++ '\x7d' :: after))
      (entries.map fun entry => (entry.1, result entry.2)) ('\x7d' :: after) := by
  induction entries generalizing steps with
  | nil =>
      cases steps with
      | zero => contradiction
      | succ steps =>
          have closes : Reads (entryFollows false) (ending ++ '\x7d' :: after) false
              ('\x7d' :: after) :=
            (Reads.peekToken endingFiller (stops_cons.mpr rfl)).bind (.pure _ _)
          exact closes.bind (.pure _ _)
  | cons entry rest ih =>
      cases steps with
      | zero => contradiction
      | succ steps =>
          obtain ⟨readsFirst, readsRest⟩ := List.forall_mem_cons.mp reads
          have shape :
              furtherChars gap (entryChars afterColon render) (entry :: rest) ++
                  (ending ++ '\x7d' :: after) =
                ',' :: (gap ++ (entryChars afterColon render entry ++
                  (furtherChars gap (entryChars afterColon render) rest ++
                    (ending ++ '\x7d' :: after)))) := by
            simp [furtherChars]
          have stops : Stops Numeral.continues
              (furtherChars gap (entryChars afterColon render) rest ++
                (ending ++ '\x7d' :: after)) :=
            stops_further _ rest endingFiller (stops_cons.mpr rfl)
          have follows : ∀ tail, Reads (entryFollows false)
              (',' :: (gap ++ (entryChars afterColon render entry ++ tail))) true
              (entryChars afterColon render entry ++ tail) := by
            intro tail
            refine (Reads.token _ rfl).bind ?_
            simp only [Char.reduceEq, Bool.false_eq_true, ↓reduceIte]
            refine (Reads.bump ',' _).bind ?_
            exact (Reads.peekToken gapFiller (stops_cons.mpr rfl)).bind (.pure _ _)
          have more := ih readsRest (Nat.lt_of_succ_lt_succ enough)
          rw [shape, readEntries]
          exact (follows _).bind (reads_entry (readsFirst _ stops) more)

/-- The entries of an object are read up to its closing brace. -/
theorem reads_entries (gapFiller : Filler gap) (endingFiller : Filler ending)
    (reads : ∀ entry ∈ entries, ∀ after, Stops Numeral.continues after →
      Reads value (afterColon ++ (render entry.2 ++ after)) (result entry.2) after)
    (after : List Char) :
    Reads (do
        bump
        let steps ← stepsLeft
        return Json.object (sortedEntries (← closing (readEntries value steps true) endObject)))
      (bracketed '\x7b' '\x7d' gap ending (entryChars afterColon render) entries ++ after)
      (.object (sortedEntries (entries.map fun entry => (entry.1, result entry.2)))) after := by
  have ends : Reads endObject ('\x7d' :: after) () after :=
    (Reads.token _ rfl).bind (Reads.bump '\x7d' after)
  cases entries with
  | nil =>
      have none : Reads (readEntries value (after.length + 1 + 1) true) ('\x7d' :: after) []
          ('\x7d' :: after) :=
        Reads.bind ((Reads.token _ rfl).bind (.pure _ _)) (.pure _ _)
      exact (Reads.bump '\x7b' _).bind ((Reads.stepsLeft _).bind
        ((none.closing ends).map fun entries => Json.object (sortedEntries entries)))
  | cons entry rest =>
      obtain ⟨readsFirst, readsRest⟩ := List.forall_mem_cons.mp reads
      have shape :
          bracketed '\x7b' '\x7d' gap ending (entryChars afterColon render) (entry :: rest) ++
              after =
            '\x7b' :: (gap ++ (entryChars afterColon render entry ++
              (furtherChars gap (entryChars afterColon render) rest ++
                (ending ++ '\x7d' :: after)))) := by
        simp [bracketed]
      have stops : Stops Numeral.continues
          (furtherChars gap (entryChars afterColon render) rest ++
            (ending ++ '\x7d' :: after)) :=
        stops_further _ rest endingFiller (stops_cons.mpr rfl)
      have follows : ∀ tail, Reads (entryFollows true)
          (gap ++ (entryChars afterColon render entry ++ tail)) true
          (entryChars afterColon render entry ++ tail) :=
        fun tail => (Reads.peekToken gapFiller (stops_cons.mpr rfl)).bind (.pure _ _)
      rw [shape]
      refine (Reads.bump '\x7b' _).bind ((Reads.stepsLeft _).bind ?_)
      have enough := length_lt_container gap (entryChars afterColon render entry) ending after
        (entryChars afterColon render) '\x7d' rest
      have more := reads_furtherEntries gapFiller endingFiller readsRest enough after
      refine Reads.map (fun entries => Json.object (sortedEntries entries))
        (Reads.closing ?_ ends)
      exact (follows _).bind (reads_entry (readsFirst _ stops) more)

end Entries

end Json

end ConnectorConsole
