import ConnectorConsole.Json.Value
import Mathlib.Algebra.Group.Int.Defs

/-!
# Inside values

Statements about a whole value are proved for lists and objects from the same
statement about the values inside.  Two measures of a value recur: what it holds
anywhere inside, and how deep its containers are nested.
-/

namespace ConnectorConsole

namespace Json

/-- A statement holds of every value when it holds of the scalars, and of lists and
objects whenever it holds of the values in them. -/
@[elab_as_elim, induction_eliminator]
theorem induct {motive : Json → Prop} (null : motive .null)
    (boolean : ∀ value, motive (.boolean value)) (number : ∀ value, motive (.number value))
    (text : ∀ value, motive (.text value))
    (list : ∀ items, (∀ item ∈ items, motive item) → motive (.list items))
    (object : ∀ entries : List (String × Json), (∀ entry ∈ entries, motive entry.2) →
      motive (.object entries))
    (value : Json) : motive value := by
  refine @Json.rec motive (fun items => ∀ item ∈ items, motive item)
    (fun entries => ∀ entry ∈ entries, motive entry.2) (fun entry => motive entry.2)
    null boolean number text list object ?_ ?_ ?_ ?_ (fun _ _ held => held) value
  · simp
  · exact fun head tail headHolds tailHolds =>
      List.forall_mem_cons.mpr ⟨headHolds, tailHolds⟩
  · simp
  · exact fun head tail headHolds tailHolds =>
      List.forall_mem_cons.mpr ⟨headHolds, tailHolds⟩

/-- A value holds itself and whatever the values in it hold. -/
inductive Holds : Json → Json → Prop where
  | self (value : Json) : Holds value value
  | item {items : List Json} {item inner : Json} (member : item ∈ items)
      (holds : Holds item inner) : Holds (.list items) inner
  | entry {entries : List (String × Json)} {entry : String × Json} {inner : Json}
      (member : entry ∈ entries) (holds : Holds entry.2 inner) : Holds (.object entries) inner

/-- A property of everything that a value holds. -/
def Everywhere (property : Json → Prop) (value : Json) : Prop :=
  ∀ inner, value.Holds inner → property inner

section Everywhere

variable {property : Json → Prop}

theorem everywhere_iff_of_leaf {value : Json}
    (leaf : ∀ inner, value.Holds inner → inner = value) :
    Everywhere property value ↔ property value :=
  ⟨fun everywhere => everywhere value (.self value),
    fun holds inner inside => leaf inner inside ▸ holds⟩

@[simp]
theorem everywhere_null : Everywhere property .null ↔ property .null :=
  everywhere_iff_of_leaf fun _ inside => by cases inside; rfl

@[simp]
theorem everywhere_boolean {value : Bool} :
    Everywhere property (.boolean value) ↔ property (.boolean value) :=
  everywhere_iff_of_leaf fun _ inside => by cases inside; rfl

@[simp]
theorem everywhere_number {value : JsonNumber} :
    Everywhere property (.number value) ↔ property (.number value) :=
  everywhere_iff_of_leaf fun _ inside => by cases inside; rfl

@[simp]
theorem everywhere_text {value : String} :
    Everywhere property (.text value) ↔ property (.text value) :=
  everywhere_iff_of_leaf fun _ inside => by cases inside; rfl

@[simp]
theorem everywhere_list {items : List Json} :
    Everywhere property (.list items) ↔
      property (.list items) ∧ ∀ item ∈ items, item.Everywhere property := by
  constructor
  · exact fun everywhere => ⟨everywhere _ (.self _), fun _ member _ inside =>
      everywhere _ (.item member inside)⟩
  · rintro ⟨whole, inItems⟩ _ (_ | ⟨member, inside⟩)
    · exact whole
    · exact inItems _ member _ inside

@[simp]
theorem everywhere_object {entries : List (String × Json)} :
    Everywhere property (.object entries) ↔
      property (.object entries) ∧ ∀ entry ∈ entries, entry.2.Everywhere property := by
  constructor
  · exact fun everywhere => ⟨everywhere _ (.self _), fun _ member _ inside =>
      everywhere _ (.entry member inside)⟩
  · rintro ⟨whole, inEntries⟩ _ (_ | _ | ⟨member, inside⟩)
    · exact whole
    · exact inEntries _ member _ inside

end Everywhere

/-- A value without floating-point numbers. -/
def FloatFree : Json → Prop :=
  Everywhere fun inner => ∀ number, inner ≠ .number (.double number)

end Json

/-- A number that is not an integer beyond a machine word, signed or unsigned. -/
def JsonNumber.Sized : JsonNumber → Prop
  | .integer value => -(2 ^ 63) ≤ value ∧ value < 2 ^ 64
  | .double _ => True

namespace Json

/-- A value whose integers fit a machine word. -/
def MachineSized : Json → Prop :=
  Everywhere fun
    | .number value => value.Sized
    | _ => True

mutual

/-- How many containers are nested in a value at most. -/
def nesting : Json → Nat
  | .list items => nestingItems items + 1
  | .object entries => nestingEntries entries + 1
  | _ => 0

/-- How many containers are nested in the items of a list at most. -/
def nestingItems : List Json → Nat
  | [] => 0
  | item :: rest => max (nesting item) (nestingItems rest)

/-- How many containers are nested in the entries of an object at most. -/
def nestingEntries : List (String × Json) → Nat
  | [] => 0
  | (_, value) :: rest => max (nesting value) (nestingEntries rest)

end

@[simp]
theorem nestingItems_le_iff {items : List Json} {depth : Nat} :
    nestingItems items ≤ depth ↔ ∀ item ∈ items, item.nesting ≤ depth := by
  induction items with
  | nil => simp [nestingItems]
  | cons item rest ih => rw [nestingItems, Nat.max_le, ih, List.forall_mem_cons]

@[simp]
theorem nestingEntries_le_iff {entries : List (String × Json)} {depth : Nat} :
    nestingEntries entries ≤ depth ↔ ∀ entry ∈ entries, entry.2.nesting ≤ depth := by
  induction entries with
  | nil => simp [nestingEntries]
  | cons entry rest ih => rw [nestingEntries, Nat.max_le, ih, List.forall_mem_cons]

end Json

end ConnectorConsole
