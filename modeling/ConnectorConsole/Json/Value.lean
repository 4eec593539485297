import ConnectorConsole.Number.Binary64

/-!
# JSON values

A value is a tree of lists and objects over four kinds of scalar. An object is
a list of entries. Values that were read have their keys in ascending order and
each key once; values that are about to be written keep the order in which
their fields are declared.
-/

namespace ConnectorConsole

/-- A JSON number. Whole numbers of machine size stay integers, every other
number is binary floating-point. -/
inductive JsonNumber where
  | integer (value : Int)
  | double (value : Binary64)
deriving DecidableEq, Repr, Inhabited

/-- A JSON value. -/
inductive Json where
  | null
  | boolean (value : Bool)
  | number (value : JsonNumber)
  | text (value : String)
  | list (items : List Json)
  | object (entries : List (String × Json))
deriving BEq, Repr, Inhabited

namespace Json

def ofNat (size : Nat) : Json :=
  .number (.integer size)

def ofTexts (texts : List String) : Json :=
  .list (texts.map .text)

def ofOption {α : Type} (encode : α → Json) : Option α → Json
  | none => .null
  | some value => encode value

def get? (key : String) : Json → Option Json
  | .object entries => entries.lookup key
  | _ => none

/-- Put an entry in its place among entries in ascending order of keys. An entry
under the same key is replaced. -/
def insertEntry {α : Type} (key : String) (value : α) :
    List (String × α) → List (String × α)
  | [] => [(key, value)]
  | (other, held) :: rest =>
    if key < other then (key, value) :: (other, held) :: rest
    else if key = other then (key, value) :: rest
    else (other, held) :: insertEntry key value rest

/-- Entries in ascending order of keys; of several under one key the last
stays. -/
def sortedEntries {α : Type} (entries : List (String × α)) : List (String × α) :=
  entries.foldl (fun sorted (key, value) => insertEntry key value sorted) []

end Json

end ConnectorConsole
