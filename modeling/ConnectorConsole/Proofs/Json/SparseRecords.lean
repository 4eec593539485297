import ConnectorConsole.Proofs.Json.PositionalRecords
import Mathlib.Data.List.Forall2

/-!
# Sparse values

A schema says where the records are inside a value.  A value is sparser than another when
fields are missing from its records, or entries that the schema does not know stand in
them, and nothing else differs.  A decoder follows a schema when it reads every sparser value
too, and what it reads is determined by what it read before and by the fields that are left.
-/

namespace ConnectorConsole

/-- Where the records are inside a value. -/
inductive Schema where
  | scalar
  | list (item : Schema)
  | record (fields : List (String × Schema))

/-- What stands under a name: in an object under that key, and in a list in the place that the
name has among all names. -/
def Json.under (names : List String) : Json → String → Option Json
  | .object entries, name => entries.lookup name
  | .list items, name => (names.zip items).lookup name
  | _, _ => none

/-- What is left of the items that were read off a list, the list being what is left of it. -/
def Json.parts {α : Type} (part : Json → α → α) : Json → List α → List α
  | .list others, decoded => List.zipWith part others decoded
  | _, decoded => decoded

namespace Schema

/-- A record without records inside. -/
def flat (names : List String) : Schema :=
  .record (names.map fun name => (name, .scalar))

/-- The names of the fields of a record. -/
def names : Schema → List String
  | .record fields => fields.map Prod.fst
  | _ => []

/-- The second value is made from the first by removing entries from the objects that are
records, and by adding entries under names that the schema does not have. -/
inductive Sparser : Schema → Json → Json → Prop where
  | same (schema : Schema) (value : Json) : Sparser schema value value
  | list {item : Schema} {items others : List Json} (length : others.length = items.length)
      (each : ∀ value other, (value, other) ∈ items.zip others → Sparser item value other) :
      Sparser (.list item) (.list items) (.list others)
  | object {fields : List (String × Schema)} {entries others : List (String × Json)}
      (distinct : (others.map Prod.fst).Nodup)
      (removed : ∀ field ∈ fields, entries.lookup field.1 = none → others.lookup field.1 = none)
      (each : ∀ field ∈ fields, ∀ value other, entries.lookup field.1 = some value →
        others.lookup field.1 = some other → Sparser field.2 value other) :
      Sparser (.record fields) (.object entries) (.object others)
  /-- A record that is written as a list of its fields has no entries to remove, but records
  inside it may. -/
  | row {fields : List (String × Schema)} {items others : List Json}
      (length : others.length = items.length)
      (each : ∀ field value other, ((field, value), other) ∈ (fields.zip items).zip others →
        Sparser field.2 value other) :
      Sparser (.record fields) (.list items) (.list others)

/-- What is left under a name is sparser than what stood there. -/
def Kept (schema : Schema) (before after : Option Json) : Prop :=
  ∀ other, after = some other → ∃ value, before = some value ∧ schema.Sparser value other

theorem Kept.same (schema : Schema) (held : Option Json) : schema.Kept held held :=
  fun other isHeld => ⟨other, isHeld, .same schema other⟩

theorem Sparser.eq_null_iff {schema : Schema} {value other : Json}
    (sparser : schema.Sparser value other) : other = .null ↔ value = .null := by
  cases sparser <;> simp

/-- Removing entries from a record leaves a sparser one. -/
theorem Sparser.of_sublist (fields : List (String × Schema)) {entries others : List (String × Json)}
    (distinct : (entries.map Prod.fst).Nodup) (sublist : others.Sublist entries) :
    (record fields).Sparser (.object entries) (.object others) := by
  have othersDistinct : (others.map Prod.fst).Nodup := distinct.sublist (sublist.map _)
  refine .object othersDistinct (fun field _ absent => ?_) fun field _ value other found held => ?_
  · rw [List.lookup_eq_none_iff] at absent ⊢
    exact fun entry member => absent entry (sublist.mem member)
  · have same := Json.lookup_of_mem distinct (sublist.mem (Json.mem_of_lookup held))
    rw [found] at same
    cases same
    exact .same field.2 value

/-- The items of a list and those of a sparser one. -/
theorem Sparser.items {item : Schema} {items : List Json} {other : Json}
    (sparser : (Schema.list item).Sparser (.list items) other) :
    ∃ others, other = .list others ∧ List.Forall₂ item.Sparser items others := by
  cases sparser with
  | same => exact ⟨items, rfl, List.forall₂_same.mpr fun value _ => .same item value⟩
  | @list _ _ others length each =>
      exact ⟨others, rfl, List.forall₂_iff_zip.mpr ⟨length.symm, fun paired => each _ _ paired⟩⟩

/-- Items in the same place stand under the same name. -/
theorem kept_row {fields : List (String × Schema)} {items others : List Json}
    (length : others.length = items.length)
    (each : ∀ field value other, ((field, value), other) ∈ (fields.zip items).zip others →
      Sparser field.2 value other)
    (distinct : (fields.map Prod.fst).Nodup) {field : String × Schema} (member : field ∈ fields) :
    field.2.Kept (((fields.map Prod.fst).zip items).lookup field.1)
      (((fields.map Prod.fst).zip others).lookup field.1) := by
  induction fields generalizing items others with
  | nil => cases member
  | cons first rest ih =>
      cases items with
      | nil =>
          obtain rfl := List.length_eq_zero_iff.mp length
          exact .same _ _
      | cons value items =>
          cases others with
          | nil => cases length
          | cons other others =>
              rw [List.map_cons, List.nodup_cons] at distinct
              rw [List.map_cons, List.zip_cons_cons, List.zip_cons_cons, Json.lookup_cons,
                Json.lookup_cons]
              rcases List.mem_cons.mp member with rfl | later
              · rw [if_pos rfl, if_pos rfl]
                rintro _ ⟨⟩
                exact ⟨value, rfl, each field value other List.mem_cons_self⟩
              · have differs : field.1 ≠ first.1 := fun same =>
                  distinct.1 (same ▸ List.mem_map_of_mem later)
                rw [if_neg differs, if_neg differs]
                refine ih (Nat.succ.inj length) (fun _ _ _ paired => ?_) distinct.2 later
                exact each _ _ _ (List.mem_cons_of_mem _ paired)

/-- Under every name of a record the sparser value holds what is left of the other. -/
theorem Sparser.kept {fields : List (String × Schema)} {value other : Json}
    (sparser : (record fields).Sparser value other) (distinct : (fields.map Prod.fst).Nodup)
    {field : String × Schema} (member : field ∈ fields) :
    field.2.Kept (value.under (fields.map Prod.fst) field.1)
      (other.under (fields.map Prod.fst) field.1) := by
  cases sparser with
  | same => exact .same _ _
  | @object _ entries others _ removed each =>
      intro held isHeld
      change others.lookup field.1 = some held at isHeld
      change ∃ value, entries.lookup field.1 = some value ∧ _
      cases found : entries.lookup field.1 with
      | none =>
          rw [removed field member found] at isHeld
          cases isHeld
      | some before => exact ⟨before, rfl, each field member before held found isHeld⟩
  | row length each => exact kept_row length each distinct member

end Schema

namespace Fields

variable {α β : Type}

/-- Whatever is built from the values under some names can also be built from what is left of
them, and what is built then is related to what was built before. -/
def Carries (fields : Fields α) (find left : String → Option Json) (related : α → α → Prop) :
    Prop :=
  ∀ built, fields.build find = .ok built →
    ∃ rebuilt, fields.build left = .ok rebuilt ∧ related built rebuilt

namespace Carries

variable {find left : String → Option Json}

theorem pure {built : α} {related : α → α → Prop} (holds : related built built) :
    (Pure.pure built : Fields α).Carries find left related := by
  rintro _ ⟨⟩
  exact ⟨built, rfl, holds⟩

/-- One more field.  A field that is mapped is also of this form, after a pure value. -/
theorem seq {functions : Fields (α → β)} {arguments : Fields α} {related : α → α → Prop}
    {applied : β → β → Prop}
    (first : functions.Carries find left fun f g =>
      ∀ built rebuilt, related built rebuilt → applied (f built) (g rebuilt))
    (second : arguments.Carries find left related) :
    (functions <*> arguments).Carries find left applied := by
  intro result builds
  obtain ⟨f, built, function, argument, rfl⟩ := ok_of_build_seq builds
  obtain ⟨g, functionAgain, holds⟩ := first f function
  obtain ⟨rebuilt, argumentAgain, isRelated⟩ := second built argument
  refine ⟨g rebuilt, ?_, holds built rebuilt isRelated⟩
  rw [build_seq, functionAgain, argumentAgain]
  rfl

end Carries

end Fields

namespace Decoder

variable {α : Type}

theorem nullable_ofJson {decoder : Decoder α} {value : Json} (notNull : value ≠ .null) :
    (nullable decoder).ofJson value = (decoder.ofJson value).map some := by
  cases value with
  | null => exact absurd rfl notNull
  | _ => rfl

/-- A decoder reads a sparser value as the part that is left of what it read before. -/
structure Follows (decoder : Decoder α) (schema : Schema) (part : Json → α → α) : Prop where
  ofJson_sparser : ∀ {value other : Json} {decoded : α}, schema.Sparser value other →
    decoder.ofJson value = .ok decoded → decoder.ofJson other = .ok (part other decoded)

/-- A record is built from what stands under its names. -/
theorem build_of_record_ofJson {name : String} {fields : Fields α} {names : List String}
    (lenient : fields.Lenient names) {value : Json} {decoded : α}
    (decodes : (record name fields).ofJson value = .ok decoded) :
    fields.build (value.under names) = .ok decoded := by
  cases value with
  | object entries => exact build_of_record_ofJson_object decodes
  | list items =>
      rw [record_ofJson_list lenient (length_le_of_record_ofJson lenient decodes)] at decodes
      exact build_of_record_ofJson_object decodes
  | _ => cases decodes

namespace Follows

/-- Every decoder follows the schema of values without records. -/
theorem scalar (decoder : Decoder α) : decoder.Follows .scalar fun _ decoded => decoded where
  ofJson_sparser := by
    rintro value _ decoded ⟨⟩ decodes
    exact decodes

theorem nullable {decoder : Decoder α} {schema : Schema} {part : Json → α → α}
    (follows : decoder.Follows schema part) :
    (Decoder.nullable decoder).Follows schema fun other => Option.map (part other) where
  ofJson_sparser := by
    intro value other decoded sparser decodes
    by_cases isNull : value = .null
    · obtain rfl : other = .null := sparser.eq_null_iff.mpr isNull
      subst isNull
      cases decodes
      rfl
    · have notNull : other ≠ .null := mt sparser.eq_null_iff.mp isNull
      rw [nullable_ofJson isNull] at decodes
      obtain ⟨held, inner, rfl⟩ := ok_of_map decodes
      rw [nullable_ofJson notNull, follows.ofJson_sparser sparser inner]
      rfl

theorem mapM_of_forall₂ {decoder : Decoder α} {schema : Schema} {part : Json → α → α}
    (follows : decoder.Follows schema part) {items others : List Json} {decoded : List α}
    (each : List.Forall₂ schema.Sparser items others)
    (decodes : items.mapM decoder.ofJson = .ok decoded) :
    others.mapM decoder.ofJson = .ok (List.zipWith part others decoded) := by
  induction each generalizing decoded with
  | nil =>
      cases decodes
      rfl
  | @cons value other items others sparser _ ih =>
      rw [List.mapM_cons] at decodes ⊢
      obtain ⟨first, head, decodes⟩ := ok_of_bind decodes
      obtain ⟨rest, tail, whole⟩ := ok_of_bind decodes
      cases whole
      rw [follows.ofJson_sparser sparser head, ih tail]
      rfl

theorem list {decoder : Decoder α} {schema : Schema} {part : Json → α → α}
    (follows : decoder.Follows schema part) :
    (Decoder.list decoder).Follows (.list schema) (Json.parts part) where
  ofJson_sparser := by
    intro value other decoded sparser decodes
    cases value with
    | list items =>
        obtain ⟨others, rfl, each⟩ := sparser.items
        exact mapM_of_forall₂ follows each decodes
    | _ => cases decodes

/-- A record follows the schema of its fields when what is built from the fields that are left
is its part. -/
theorem record {name : String} {fields : Fields α} [fields.Sound]
    {schemas : List (String × Schema)} {part : Json → α → α}
    (lenient : fields.Lenient (schemas.map Prod.fst))
    (carries : ∀ find other,
      (∀ field ∈ schemas,
        field.2.Kept (find field.1) (other.under (schemas.map Prod.fst) field.1)) →
      fields.Carries find (other.under (schemas.map Prod.fst)) fun built rebuilt =>
        rebuilt = part other built) :
    (Decoder.record name fields).Follows (.record schemas) part where
  ofJson_sparser := by
    intro value other decoded sparser decodes
    have builds := build_of_record_ofJson lenient decodes
    obtain ⟨_, rebuilds, rfl⟩ :=
      carries _ _ (fun field member => sparser.kept lenient.distinct member) decoded builds
    cases sparser with
    | same =>
        -- the keys of this value may repeat, so that it is not enough that it can be rebuilt
        rw [← rebuilds, builds]
        exact decodes
    | object distinct removed each => exact record_ofJson_of_build distinct rebuilds
    | row length each =>
        have fits := length_le_of_record_ofJson lenient decodes
        rw [record_ofJson_list lenient (length ▸ fits)]
        exact record_ofJson_of_build (Json.distinct_zip lenient.distinct _) rebuilds

end Follows

end Decoder

namespace Fields

variable {α : Type} {find left : String → Option Json}

theorem Carries.withDefault {decoder : Decoder α} {schema : Schema} {part : Json → α → α}
    (follows : decoder.Follows schema part) {name : String} (fallback : α)
    (kept : schema.Kept (find name) (left name)) :
    (Fields.withDefault name fallback decoder).Carries find left fun built rebuilt =>
      rebuilt = (left name).elim fallback fun other => part other built := by
  intro built builds
  rw [build_withDefault] at builds ⊢
  cases held : left name with
  | none => exact ⟨fallback, rfl, rfl⟩
  | some other =>
      obtain ⟨value, found, sparser⟩ := kept other held
      rw [found] at builds
      exact ⟨part other built, follows.ofJson_sparser sparser builds, rfl⟩

end Fields

end ConnectorConsole
