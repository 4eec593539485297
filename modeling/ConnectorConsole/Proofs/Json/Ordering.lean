import ConnectorConsole.Proofs.Json.Values
import Mathlib.Data.List.Induction
import Mathlib.Data.String.Basic

/-!
# The order of entries

Sorting entries by their keys gives an ascending list with the same value under
every key, and leaves an ascending list as it is.  Sorting every object inside a
value gives the form in which values are read.
-/

namespace ConnectorConsole

namespace Json

section Entries

variable {α : Type}

/-- Entries in ascending order of keys, each key once. -/
def Ascending (entries : List (String × α)) : Prop :=
  entries.Pairwise fun earlier later => earlier.1 < later.1

theorem Ascending.distinct {entries : List (String × α)} (ascending : Ascending entries) :
    (entries.map Prod.fst).Nodup :=
  List.pairwise_map.mpr (ascending.imp fun less => less.ne)

theorem mem_insertEntry {key : String} {value : α} {entries : List (String × α)}
    {entry : String × α} (member : entry ∈ insertEntry key value entries) :
    entry = (key, value) ∨ entry ∈ entries := by
  induction entries with
  | nil => exact .inl (List.mem_singleton.mp member)
  | cons head rest ih =>
      obtain ⟨other, held⟩ := head
      rw [insertEntry] at member
      split_ifs at member with before same
      · exact List.mem_cons.mp member
      · exact (List.mem_cons.mp member).imp_right (List.mem_cons_of_mem _)
      · rcases List.mem_cons.mp member with isHead | inRest
        · exact .inr (isHead ▸ List.mem_cons_self)
        · exact (ih inRest).imp_right (List.mem_cons_of_mem _)

theorem Ascending.insertEntry {entries : List (String × α)} (ascending : Ascending entries)
    (key : String) (value : α) : Ascending (Json.insertEntry key value entries) := by
  induction entries with
  | nil => exact List.pairwise_singleton _ _
  | cons head rest ih =>
      obtain ⟨other, held⟩ := head
      obtain ⟨headFirst, restAscending⟩ := List.pairwise_cons.mp ascending
      rw [Json.insertEntry]
      split_ifs with before same
      · refine List.pairwise_cons.mpr ⟨fun entry member => ?_, ascending⟩
        rcases List.mem_cons.mp member with rfl | inRest
        · exact before
        · exact before.trans (headFirst entry inRest)
      · subst same
        exact List.pairwise_cons.mpr ⟨headFirst, restAscending⟩
      · refine List.pairwise_cons.mpr ⟨fun entry member => ?_, ih restAscending⟩
        rcases mem_insertEntry member with rfl | inRest
        · exact lt_of_le_of_ne (not_lt.mp before) (Ne.symm same)
        · exact headFirst entry inRest

theorem lookup_cons (key : String) (value : α) (rest : List (String × α)) (asked : String) :
    ((key, value) :: rest).lookup asked =
      if asked = key then some value else rest.lookup asked := by
  by_cases isKey : asked = key
  · simp [isKey]
  · simp [List.lookup_cons, beq_eq_false_iff_ne.mpr isKey, isKey]

/-- Among distinct keys every entry is found under its key. -/
theorem lookup_of_mem {entries : List (String × α)} (distinct : (entries.map Prod.fst).Nodup)
    {key : String} {value : α} (member : (key, value) ∈ entries) :
    entries.lookup key = some value := by
  induction entries with
  | nil => cases member
  | cons head rest ih =>
      obtain ⟨other, held⟩ := head
      obtain ⟨headNew, restDistinct⟩ := List.nodup_cons.mp distinct
      rw [lookup_cons]
      rcases List.mem_cons.mp member with isHead | inRest
      · obtain ⟨rfl, rfl⟩ := Prod.mk.inj isHead
        exact if_pos rfl
      · have notHead : key ≠ other := by
          rintro rfl
          exact headNew (List.mem_map.mpr ⟨_, inRest, rfl⟩)
        rw [if_neg notHead, ih restDistinct inRest]

theorem mem_of_lookup {entries : List (String × α)} {key : String} {value : α}
    (found : entries.lookup key = some value) : (key, value) ∈ entries := by
  obtain ⟨before, after, rfl, _⟩ := List.lookup_eq_some_iff.mp found
  exact List.mem_append_right before List.mem_cons_self

theorem lookup_insertEntry (key : String) (value : α) (entries : List (String × α))
    (asked : String) :
    (insertEntry key value entries).lookup asked =
      if asked = key then some value else entries.lookup asked := by
  induction entries with
  | nil => rw [insertEntry, lookup_cons]
  | cons head rest ih =>
      obtain ⟨other, held⟩ := head
      rw [insertEntry]
      by_cases before : key < other
      · rw [if_pos before, lookup_cons]
      · by_cases same : key = other
        · subst same
          by_cases isKey : asked = key <;> simp [lookup_cons, isKey]
        · rw [if_neg before, if_neg same, lookup_cons, lookup_cons, ih]
          by_cases isKey : asked = key <;> simp [isKey, same]

/-- A key above all others goes to the end. -/
theorem insertEntry_of_greater {key : String} {value : α} {entries : List (String × α)}
    (greater : ∀ entry ∈ entries, entry.1 < key) :
    insertEntry key value entries = entries ++ [(key, value)] := by
  induction entries with
  | nil => rfl
  | cons head rest ih =>
      obtain ⟨other, held⟩ := head
      obtain ⟨headLess, restLess⟩ := List.forall_mem_cons.mp greater
      rw [insertEntry, if_neg headLess.asymm, if_neg headLess.ne', ih restLess, List.cons_append]

@[simp]
theorem sortedEntries_concat (entries : List (String × α)) (entry : String × α) :
    sortedEntries (entries ++ [entry]) =
      insertEntry entry.1 entry.2 (sortedEntries entries) := by
  simp [sortedEntries]

theorem sortedEntries_ascending (entries : List (String × α)) :
    Ascending (sortedEntries entries) := by
  induction entries using List.reverseRecOn with
  | nil => exact List.Pairwise.nil
  | append_singleton entries entry ih =>
      rw [sortedEntries_concat]
      exact ih.insertEntry entry.1 entry.2

theorem mem_of_mem_sortedEntries {entries : List (String × α)} {entry : String × α}
    (member : entry ∈ sortedEntries entries) : entry ∈ entries := by
  induction entries using List.reverseRecOn with
  | nil => exact member
  | append_singleton entries last ih =>
      rw [sortedEntries_concat] at member
      rw [List.mem_append, List.mem_singleton]
      exact (mem_insertEntry member).symm.imp_left ih

/-- Sorting entries with distinct keys keeps the value under every key. -/
theorem lookup_sortedEntries {entries : List (String × α)}
    (distinct : (entries.map Prod.fst).Nodup) (asked : String) :
    (sortedEntries entries).lookup asked = entries.lookup asked := by
  induction entries using List.reverseRecOn with
  | nil => rfl
  | append_singleton entries last ih =>
      rw [List.map_append, List.nodup_append] at distinct
      obtain ⟨entriesDistinct, _, lastNew⟩ := distinct
      rw [sortedEntries_concat, lookup_insertEntry, ih entriesDistinct, List.lookup_append]
      by_cases isLast : asked = last.1
      · have absent : entries.lookup asked = none := by
          rw [List.lookup_eq_none_iff]
          intro entry member
          have other := lastNew entry.1 (List.mem_map_of_mem member) last.1 (by simp)
          simpa [isLast] using other.symm
        rw [if_pos isLast, absent, lookup_cons, if_pos isLast, Option.none_or]
      · rw [if_neg isLast, lookup_cons, if_neg isLast, List.lookup_nil, Option.or_none]

/-- Sorting leaves ascending entries as they are. -/
theorem sortedEntries_of_ascending {entries : List (String × α)}
    (ascending : Ascending entries) : sortedEntries entries = entries := by
  induction entries using List.reverseRecOn with
  | nil => rfl
  | append_singleton entries last ih =>
      obtain ⟨entriesAscending, _, lastGreater⟩ := List.pairwise_append.mp ascending
      rw [sortedEntries_concat, ih entriesAscending]
      exact insertEntry_of_greater fun entry member =>
        lastGreater entry member last (List.mem_singleton_self last)

end Entries

/-- A value in which the entries of every object are in ascending order of keys, as
they are in every value that was read. -/
def Ordered : Json → Prop :=
  Everywhere fun inner => ∀ entries, inner = .object entries → Ascending entries

@[simp]
theorem ordered_null : Ordered .null := by
  simp [Ordered]

@[simp]
theorem ordered_boolean (value : Bool) : Ordered (.boolean value) := by
  simp [Ordered]

@[simp]
theorem ordered_number (value : JsonNumber) : Ordered (.number value) := by
  simp [Ordered]

@[simp]
theorem ordered_text (value : String) : Ordered (.text value) := by
  simp [Ordered]

@[simp]
theorem ordered_list {items : List Json} :
    Ordered (.list items) ↔ ∀ item ∈ items, item.Ordered := by
  simp [Ordered]

@[simp]
theorem ordered_object {entries : List (String × Json)} :
    Ordered (.object entries) ↔ Ascending entries ∧ ∀ entry ∈ entries, entry.2.Ordered := by
  simp [Ordered]

mutual

/-- A value with the entries of every object sorted. -/
def sorted : Json → Json
  | .list items => .list (sortedItems items)
  | .object entries => .object (sortedEntries (sortedValues entries))
  | .null => .null
  | .boolean value => .boolean value
  | .number value => .number value
  | .text value => .text value

/-- The items of a list, each sorted inside. -/
def sortedItems : List Json → List Json
  | [] => []
  | item :: rest => sorted item :: sortedItems rest

/-- The entries of an object, each sorted inside. -/
def sortedValues : List (String × Json) → List (String × Json)
  | [] => []
  | (key, value) :: rest => (key, sorted value) :: sortedValues rest

end

@[simp]
theorem sortedItems_eq_map (items : List Json) : sortedItems items = items.map sorted := by
  induction items with
  | nil => rfl
  | cons item rest ih => rw [sortedItems, ih, List.map_cons]

@[simp]
theorem sortedValues_eq_map (entries : List (String × Json)) :
    sortedValues entries = entries.map fun entry => (entry.1, entry.2.sorted) := by
  induction entries with
  | nil => rfl
  | cons entry rest ih => rw [sortedValues, ih, List.map_cons]

/-- Sorting leaves a value as it is that has its entries in order already. -/
theorem sorted_of_ordered {value : Json} (ordered : value.Ordered) : value.sorted = value := by
  induction value with
  | null => rfl
  | boolean _ => rfl
  | number _ => rfl
  | text _ => rfl
  | list items ih =>
      have itemsSame : items.map sorted = items.map id :=
        List.map_congr_left fun item member => ih item member (ordered_list.mp ordered item member)
      rw [sorted, sortedItems_eq_map, itemsSame, List.map_id]
  | object entries ih =>
      obtain ⟨ascending, valuesOrdered⟩ := ordered_object.mp ordered
      have valuesSame : (entries.map fun entry => (entry.1, entry.2.sorted)) = entries.map id :=
        List.map_congr_left fun entry member =>
          Prod.ext rfl (ih entry member (valuesOrdered entry member))
      rw [sorted, sortedValues_eq_map, valuesSame, List.map_id,
        sortedEntries_of_ascending ascending]

end Json

end ConnectorConsole
