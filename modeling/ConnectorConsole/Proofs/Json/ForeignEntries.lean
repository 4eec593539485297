import ConnectorConsole.Proofs.Json.Records

/-!
# Entries that a record does not know

An entry of an object under a name that no field of a record has is passed over: it is
not checked, and no field is built from it.  The record read is the one that is read off the
object without the entry, and a refusal is the same refusal.
-/

namespace ConnectorConsole

/-- The value under another key does not change when the entries under a key are removed. -/
theorem Json.lookup_filter_ne {α : Type} {key asked : String} (other : asked ≠ key)
    (entries : List (String × α)) :
    (entries.filter fun entry => entry.1 ≠ key).lookup asked = entries.lookup asked := by
  induction entries with
  | nil => rfl
  | cons entry rest ih =>
      rw [List.filter_cons]
      by_cases isKey : entry.1 = key
      · have notEntry : asked ≠ entry.1 := isKey ▸ other
        rw [if_neg (by simp [isKey]), ih, lookup_cons, if_neg notEntry]
      · rw [if_pos (by simp [isKey]), lookup_cons, lookup_cons, ih]

namespace Fields

variable {α β : Type}

/-- Fields are local when nothing but the values under their names decides what is built. -/
class Local (fields : Fields α) : Prop where
  build_congr : ∀ find other : String → Option Json,
    (∀ spec ∈ fields.specs, find spec.name = other spec.name) →
      fields.build find = fields.build other

instance (name : String) (decoder : Decoder α) : (required name decoder).Local where
  build_congr := by
    intro find other same
    have sameValue : find name = other name := same _ List.mem_cons_self
    rw [build_required, build_required, sameValue]

instance (name : String) (fallback : α) (decoder : Decoder α) :
    (withDefault name fallback decoder).Local where
  build_congr := by
    intro find other same
    have sameValue : find name = other name := same _ List.mem_cons_self
    rw [build_withDefault, build_withDefault, sameValue]

instance (name : String) (decoder : Decoder α) : (optional name decoder).Local :=
  inferInstanceAs (withDefault name none (Decoder.nullable decoder)).Local

instance (name : String) : (textOrEmpty name).Local :=
  inferInstanceAs (withDefault name "" Decoder.text).Local

instance (f : α → β) (fields : Fields α) [isLocal : fields.Local] : (f <$> fields).Local where
  build_congr := by
    intro find other same
    rw [build_map, build_map, isLocal.build_congr find other same]

instance (functions : Fields (α → β)) (arguments : Fields α) [functionsLocal : functions.Local]
    [argumentsLocal : arguments.Local] : (functions <*> arguments).Local where
  build_congr := by
    intro find other same
    have inFunctions : ∀ spec ∈ functions.specs, find spec.name = other spec.name :=
      fun spec member => same spec (List.mem_append_left _ member)
    have inArguments : ∀ spec ∈ arguments.specs, find spec.name = other spec.name :=
      fun spec member => same spec (List.mem_append_right _ member)
    rw [build_seq, build_seq, functionsLocal.build_congr find other inFunctions,
      argumentsLocal.build_congr find other inArguments]

/-- Nothing is wrong with an entry under a name that no field has. -/
theorem entryComplaint_of_foreign {specs : List FieldSpec} {entry : String × Json}
    (foreign : ∀ spec ∈ specs, spec.name ≠ entry.1) : entryComplaint specs entry = none := by
  have unknown : spec? specs entry.1 = none := by
    rw [spec?, List.find?_eq_none]
    intro spec member
    simpa using foreign spec member
  rw [entryComplaint, unknown]
  rfl

theorem findSome?_entryComplaint_filter {specs : List FieldSpec} {key : String}
    (foreign : ∀ spec ∈ specs, spec.name ≠ key) (entries : List (String × Json)) :
    (entries.filter fun entry => entry.1 ≠ key).findSome? (entryComplaint specs) =
      entries.findSome? (entryComplaint specs) := by
  induction entries with
  | nil => rfl
  | cons entry rest ih =>
      rw [List.filter_cons, List.findSome?_cons]
      by_cases isKey : entry.1 = key
      · rw [if_neg (by simp [isKey]), ih, entryComplaint_of_foreign (isKey ▸ foreign)]
      · rw [if_pos (by simp [isKey]), List.findSome?_cons, ih]

end Fields

namespace Decoder

variable {α : Type} {name : String} {fields : Fields α} {entries : List (String × Json)}

/-- A record is read alike with and without the entries under a name that it does not have. -/
theorem record_ofJson_filter [isLocal : fields.Local] {key : String}
    (foreign : ∀ spec ∈ fields.specs, spec.name ≠ key) :
    (record name fields).ofJson (.object (entries.filter fun entry => entry.1 ≠ key)) =
      (record name fields).ofJson (.object entries) := by
  have sameBuild := isLocal.build_congr
    (fun asked => (entries.filter fun entry => entry.1 ≠ key).lookup asked)
    (fun asked => entries.lookup asked)
    (fun spec member => Json.lookup_filter_ne (foreign spec member) entries)
  simp only [record, Fields.findSome?_entryComplaint_filter foreign, sameBuild]

end Decoder

end ConnectorConsole
