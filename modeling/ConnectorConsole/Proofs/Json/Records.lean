import ConnectorConsole.Json.Decoder
import ConnectorConsole.Proofs.Json.Ordering

/-!
# Reading records

A record is read off an object in two passes: every entry under a known name is
checked, and then the record is built from the values under its names.  Whatever
builds passes the check, because both look at a field with the same decoder.  What
is built depends on the value under each key only, so that the entries of an object
may stand in any order.
-/

namespace ConnectorConsole

theorem ok_of_bind {ε α β : Type} {part : Except ε α} {next : α → Except ε β} {value : β}
    (built : part >>= next = .ok value) : ∃ found, part = .ok found ∧ next found = .ok value := by
  cases part with
  | error problem => cases built
  | ok found => exact ⟨found, rfl, built⟩

theorem ok_of_map {ε α β : Type} {part : Except ε α} {f : α → β} {value : β}
    (mapped : part.map f = .ok value) : ∃ found, part = .ok found ∧ f found = value := by
  cases part with
  | error problem => cases mapped
  | ok found => exact ⟨found, rfl, Except.ok.inj mapped⟩

namespace Fields

open Decoder

section

variable {α β : Type}

@[simp]
theorem build_required (name : String) (decoder : Decoder α) (find : String → Option Json) :
    (required name decoder).build find =
      match find name with
      | none => .error (.missingField name)
      | some value => decoder.ofJson value :=
  rfl

@[simp]
theorem build_withDefault (name : String) (fallback : α) (decoder : Decoder α)
    (find : String → Option Json) :
    (withDefault name fallback decoder).build find =
      match find name with
      | none => .ok fallback
      | some value => decoder.ofJson value :=
  rfl

@[simp]
theorem build_map (f : α → β) (fields : Fields α) (find : String → Option Json) :
    (f <$> fields).build find = (fields.build find).map f := by
  change (do let argument ← fields.build find; return f argument) = _
  cases fields.build find <;> rfl

@[simp]
theorem build_seq (functions : Fields (α → β)) (arguments : Fields α)
    (find : String → Option Json) :
    (functions <*> arguments).build find =
      (functions.build find).bind fun function => (arguments.build find).map function := by
  change (do
    let function ← functions.build find
    let argument ← arguments.build find
    return function argument) = _
  cases functions.build find <;> cases arguments.build find <;> rfl

theorem ok_of_build_map {f : α → β} {fields : Fields α} {find : String → Option Json} {built : β}
    (builds : (f <$> fields).build find = .ok built) :
    ∃ part, fields.build find = .ok part ∧ f part = built := by
  rw [build_map] at builds
  exact ok_of_map builds

theorem ok_of_build_seq {functions : Fields (α → β)} {arguments : Fields α}
    {find : String → Option Json} {built : β}
    (builds : (functions <*> arguments).build find = .ok built) :
    ∃ f argument, functions.build find = .ok f ∧ arguments.build find = .ok argument ∧
      f argument = built := by
  rw [build_seq] at builds
  obtain ⟨f, function, builds⟩ := ok_of_bind builds
  obtain ⟨argument, isBuilt, rfl⟩ := ok_of_map builds
  exact ⟨f, argument, function, isBuilt, rfl⟩

@[simp]
theorem build_optional (name : String) (decoder : Decoder α) (find : String → Option Json) :
    (optional name decoder).build find =
      match find name with
      | none => .ok none
      | some value => (nullable decoder).ofJson value :=
  rfl

@[simp]
theorem build_textOrEmpty (name : String) (find : String → Option Json) :
    (textOrEmpty name).build find =
      match find name with
      | none => .ok ""
      | some value => Decoder.text.ofJson value :=
  rfl

/-- Fields are sound when no value that a record is built from is complained about. -/
class Sound (fields : Fields α) : Prop where
  complaint_eq_none : ∀ (find : String → Option Json) (built : α),
    fields.build find = .ok built →
      ∀ spec ∈ fields.specs, ∀ value, find spec.name = some value → spec.complaint value = none

theorem complaintOf_of_ok {decoder : Decoder α} {value : Json} {decoded : α}
    (decodes : decoder.ofJson value = .ok decoded) : complaintOf decoder value = none := by
  rw [complaintOf, decodes]

instance (name : String) (decoder : Decoder α) : (required name decoder).Sound where
  complaint_eq_none := by
    intro find built builds spec member value found
    obtain rfl := List.mem_singleton.mp member
    rw [build_required, found] at builds
    exact complaintOf_of_ok builds

instance (name : String) (fallback : α) (decoder : Decoder α) :
    (withDefault name fallback decoder).Sound where
  complaint_eq_none := by
    intro find built builds spec member value found
    obtain rfl := List.mem_singleton.mp member
    rw [build_withDefault, found] at builds
    exact complaintOf_of_ok builds

instance (name : String) (decoder : Decoder α) : (optional name decoder).Sound :=
  inferInstanceAs (withDefault name none (nullable decoder)).Sound

instance (name : String) : (textOrEmpty name).Sound :=
  inferInstanceAs (withDefault name "" Decoder.text).Sound

instance (f : α → β) (fields : Fields α) [sound : fields.Sound] : (f <$> fields).Sound where
  complaint_eq_none := by
    intro find built builds spec member value found
    obtain ⟨part, partly, -⟩ := ok_of_build_map builds
    exact sound.complaint_eq_none find part partly spec member value found

instance (functions : Fields (α → β)) (arguments : Fields α)
    [functionsSound : functions.Sound] [argumentsSound : arguments.Sound] :
    (functions <*> arguments).Sound where
  complaint_eq_none := by
    intro find built builds spec member value found
    obtain ⟨f, a, function, argument, -⟩ := ok_of_build_seq builds
    rcases List.mem_append.mp member with inFunctions | inArguments
    · exact functionsSound.complaint_eq_none find f function spec inFunctions value found
    · exact argumentsSound.complaint_eq_none find a argument spec inArguments value found

end

end Fields

namespace Json

/-- A way in which the entries of the objects inside a value may be put in order. -/
structure Arrangement where
  arrange : Json → Json
  arrange_null : arrange .null = .null
  arrange_boolean : ∀ value, arrange (.boolean value) = .boolean value
  arrange_text : ∀ value, arrange (.text value) = .text value
  arrange_list : ∀ items, arrange (.list items) = .list (items.map arrange)
  /-- The entries of an object stay under their keys. -/
  arrange_object : ∀ entries : List (String × Json), (entries.map Prod.fst).Nodup →
    ∃ held, arrange (.object entries) = .object held ∧ (held.map Prod.fst).Nodup ∧
      ∀ key, held.lookup key = (entries.lookup key).map arrange

attribute [simp] Arrangement.arrange_null Arrangement.arrange_boolean
  Arrangement.arrange_text Arrangement.arrange_list

namespace Arrangement

/-- The order in which a value is written. -/
def asWritten : Arrangement where
  arrange := id
  arrange_null := rfl
  arrange_boolean _ := rfl
  arrange_text _ := rfl
  arrange_list items := by simp
  arrange_object entries distinct := ⟨entries, rfl, distinct, fun key => by simp⟩

theorem lookup_map (f : Json → Json) (entries : List (String × Json)) (key : String) :
    (entries.map fun entry => (entry.1, f entry.2)).lookup key = (entries.lookup key).map f := by
  induction entries with
  | nil => rfl
  | cons entry rest ih =>
      rw [List.map_cons, lookup_cons, lookup_cons, ih]
      split <;> rfl

/-- The order in which a value is read. -/
def asRead : Arrangement where
  arrange := sorted
  arrange_null := rfl
  arrange_boolean _ := rfl
  arrange_text _ := rfl
  arrange_list items := by rw [sorted, sortedItems_eq_map]
  arrange_object entries distinct := by
    have mapDistinct :
        ((entries.map fun entry => (entry.1, entry.2.sorted)).map Prod.fst).Nodup := by
      simpa [List.map_map, Function.comp_def] using distinct
    refine ⟨_, by rw [sorted, sortedValues_eq_map], (sortedEntries_ascending _).distinct, ?_⟩
    intro key
    rw [lookup_sortedEntries mapDistinct, lookup_map]

@[simp]
theorem arrange_ofTexts (arrangement : Arrangement) (texts : List String) :
    arrangement.arrange (ofTexts texts) = ofTexts texts := by
  simp [ofTexts, Function.comp_def]

end Arrangement

end Json

namespace Decoder

open Json

section

variable {α : Type}

/-- A record is read off an object that it can be built from. -/
theorem record_ofJson_of_build {name : String} {fields : Fields α} [sound : fields.Sound]
    {held : List (String × Json)} (distinct : (held.map Prod.fst).Nodup) {built : α}
    (builds : fields.build (fun key => held.lookup key) = .ok built) :
    (record name fields).ofJson (.object held) = .ok built := by
  have noComplaint : held.findSome? (Fields.entryComplaint fields.specs) = none := by
    rw [List.findSome?_eq_none_iff]
    rintro ⟨key, value⟩ member
    rw [Fields.entryComplaint, Option.bind_eq_none_iff]
    intro spec found
    rw [Fields.spec?] at found
    have isName := List.find?_some found
    obtain rfl : spec.name = key := beq_iff_eq.mp isName
    exact sound.complaint_eq_none _ built builds spec (List.mem_of_find?_eq_some found) value
      (lookup_of_mem distinct member)
  simpa only [record, noComplaint] using builds

/-- A record that is read off an object is built from its entries. -/
theorem build_of_record_ofJson_object {name : String} {fields : Fields α}
    {held : List (String × Json)} {built : α}
    (decodes : (record name fields).ofJson (.object held) = .ok built) :
    fields.build (fun key => held.lookup key) = .ok built := by
  simp only [record] at decodes
  split at decodes
  next => cases decodes
  next => exact decodes

/-- What is read off an object depends on the value under each key only. -/
theorem record_ofJson_of_lookup {name : String} {fields : Fields α} [fields.Sound]
    {held other : List (String × Json)} (distinct : (other.map Prod.fst).Nodup)
    (same : ∀ key, held.lookup key = other.lookup key) {built : α}
    (decodes : (record name fields).ofJson (.object held) = .ok built) :
    (record name fields).ofJson (.object other) = .ok built := by
  refine record_ofJson_of_build distinct ?_
  rw [← funext same]
  exact build_of_record_ofJson_object decodes

/-- A record is read off an object however its entries are arranged. -/
theorem record_ofJson_arrange (arrangement : Arrangement) {name : String} {fields : Fields α}
    [fields.Sound] {entries : List (String × Json)}
    (distinct : (entries.map Prod.fst).Nodup) {built : α}
    (builds : fields.build (fun key => (entries.lookup key).map arrangement.arrange) =
      .ok built) :
    (record name fields).ofJson (arrangement.arrange (.object entries)) = .ok built := by
  obtain ⟨held, arranged, heldDistinct, lookups⟩ := arrangement.arrange_object entries distinct
  rw [arranged]
  refine record_ofJson_of_build heldDistinct ?_
  rw [funext lookups]
  exact builds

end

end Decoder

end ConnectorConsole
