import ConnectorConsole.Proofs.Json.Records
import Mathlib.Data.List.Nodup

/-!
# Records written as lists

A record may be written as a list of its fields in declared order.  Where the names of the
fields differ and none of them must be present, such a list is read like the object that
gives its items their names: it may be shorter than the record, but not longer.
-/

namespace ConnectorConsole

theorem Json.distinct_zip {names : List String} (distinct : names.Nodup)
    (items : List Json) : ((names.zip items).map Prod.fst).Nodup := by
  rw [List.zip_eq_zip_take_min, List.map_fst_zip (by simp)]
  exact distinct.sublist (List.take_sublist _ _)

namespace Fields

variable {α : Type}

/-- Fields under the given names, which differ, and of which none must be present. -/
structure Lenient (fields : Fields α) (names : List String) : Prop where
  names_eq : fields.specs.map FieldSpec.name = names
  distinct : names.Nodup
  optional : ∀ spec ∈ fields.specs, spec.required = false

section Specs

variable {specs : List FieldSpec}

/-- A field is found under its name where the names differ. -/
theorem spec?_name (distinct : (specs.map FieldSpec.name).Nodup) {spec : FieldSpec}
    (member : spec ∈ specs) : spec? specs spec.name = some spec := by
  induction specs with
  | nil => cases member
  | cons first rest ih =>
      rw [List.map_cons, List.nodup_cons] at distinct
      rw [spec?, List.find?_cons]
      rcases List.mem_cons.mp member with rfl | later
      · rw [beq_self_eq_true]
      · have differs : (first.name == spec.name) = false := by
          refine beq_eq_false_iff_ne.mpr fun same => distinct.1 ?_
          rw [same]
          exact List.mem_map_of_mem later
        rw [differs]
        exact ih distinct.2 later

/-- What is wrong with the items of a list is what is wrong with them under their names. -/
theorem findSome?_entryComplaint_zip (distinct : (specs.map FieldSpec.name).Nodup)
    (items : List Json) :
    ((specs.map FieldSpec.name).zip items).findSome? (entryComplaint specs) =
      (specs.zip items).findSome? fun (spec, value) => spec.complaint value := by
  rw [List.zip_map_left, List.findSome?_map, ← List.head?_filterMap, ← List.head?_filterMap]
  refine congrArg List.head? (List.filterMap_congr fun (spec, value) member => ?_)
  have found := spec?_name distinct (List.of_mem_zip member).1
  simp [entryComplaint, found]

theorem missingAt_eq_none (optional : ∀ spec ∈ specs, spec.required = false) (length : Nat) :
    missingAt specs length = none := by
  rw [missingAt, Option.map_eq_none_iff, List.find?_eq_none]
  rintro ⟨spec, index⟩ member
  have inSpecs : spec ∈ specs := List.fst_mem_of_mem_zipIdx (List.mem_of_mem_drop member)
  simp [optional spec inSpecs]

end Specs

end Fields

namespace Decoder

open Fields

variable {α : Type} {name : String} {fields : Fields α} {names : List String} {items : List Json}

/-- A list is read like the object that names its items. -/
theorem record_ofJson_list (lenient : fields.Lenient names) (fits : items.length ≤ names.length) :
    (record name fields).ofJson (.list items) =
      (record name fields).ofJson (.object (names.zip items)) := by
  obtain ⟨rfl, distinct, optional⟩ := lenient
  rw [List.length_map] at fits
  have complaints : listComplaint name fields.specs items =
      ((fields.specs.map FieldSpec.name).zip items).findSome? (entryComplaint fields.specs) := by
    rw [findSome?_entryComplaint_zip distinct, listComplaint, missingAt_eq_none optional]
    dsimp only
    rw [if_neg (by omega)]
    split <;> simp only [*]
  simp only [record, complaints]

/-- A list is read as the object that names its items is, with its entries in order. -/
theorem record_ofJson_list_eq_ok_iff [fields.Sound] (lenient : fields.Lenient names)
    (fits : items.length ≤ names.length) {decoded : α} :
    (record name fields).ofJson (.list items) = .ok decoded ↔
      (record name fields).ofJson (.object (Json.sortedEntries (names.zip items))) =
        .ok decoded := by
  have distinct := Json.distinct_zip lenient.distinct items
  have same := Json.lookup_sortedEntries distinct
  rw [record_ofJson_list lenient fits]
  constructor
  · exact record_ofJson_of_lookup (Json.sortedEntries_ascending _).distinct fun key => (same key).symm
  · exact record_ofJson_of_lookup distinct same

/-- A list of more items than there are fields is refused. -/
theorem record_ofJson_overlong (lenient : fields.Lenient names)
    (long : names.length < items.length) :
    ∃ problem, (record name fields).ofJson (.list items) = .error problem := by
  obtain ⟨rfl, distinct, optional⟩ := lenient
  rw [List.length_map] at long
  have complains : ∃ problem, listComplaint name fields.specs items = some problem := by
    rw [listComplaint, missingAt_eq_none optional]
    dsimp only
    rw [if_pos long]
    split
    · exact ⟨_, rfl⟩
    · exact ⟨_, rfl⟩
  obtain ⟨problem, complains⟩ := complains
  exact ⟨problem, by simp only [record, complains]⟩

/-- A list that is read as a record has no more items than there are fields. -/
theorem length_le_of_record_ofJson (lenient : fields.Lenient names) {decoded : α}
    (decodes : (record name fields).ofJson (.list items) = .ok decoded) :
    items.length ≤ names.length := by
  by_contra long
  have overlong : ∃ problem, (record name fields).ofJson (.list items) = .error problem :=
    record_ofJson_overlong lenient (not_le.mp long)
  obtain ⟨problem, refused⟩ := overlong
  rw [refused] at decodes
  cases decodes

/-- What is read as a record and then mapped is read as a record. -/
theorem map_record_ofJson {β : Type} (f : α → β) (name : String) (fields : Fields α)
    (value : Json) : ((record name fields).ofJson value).map f =
      (record name (f <$> fields)).ofJson value := by
  have sameSpecs : (f <$> fields).specs = fields.specs := rfl
  cases value with
  | object entries =>
      simp only [record, sameSpecs, build_map]
      split <;> rfl
  | list items =>
      simp only [record, sameSpecs, build_map]
      split <;> rfl
  | _ => rfl

/-- Nothing but objects and lists is read as a record. -/
theorem record_ofJson_mismatch {value : Json} (noObject : ∀ entries, value ≠ .object entries)
    (noList : ∀ items, value ≠ .list items) :
    (record name fields).ofJson value = .error (.wrongType value.found s!"struct {name}") := by
  cases value with
  | object entries => exact absurd rfl (noObject entries)
  | list items => exact absurd rfl (noList items)
  | _ => rfl

end Decoder

end ConnectorConsole
