import ConnectorConsole.Json.Reader

/-!
# Decoders

A decoder turns JSON into a value of the domain. It works on a value that is
already read, and it can also scan a text, so that the first fault of shape or
grammar is reported with its place. A record is described once by its fields;
both ways of decoding follow that description.

Entries of an object are examined in the order in which they stand. A record
may also be written as a list of its fields in declared order.
-/

namespace ConnectorConsole

/-- A way to decode values of one type. -/
structure Decoder (α : Type) where
  /-- Decode a value that is already read. -/
  ofJson : Json → Except JsonProblem α
  /-- Read the value off a text, with so many containers allowed inside, and
  check its shape on the way. -/
  scan : Nat → Scan Json

namespace Decoder

open Scan Json

def ofText {α : Type} (decoder : Decoder α) (text : String) : Except ReadFailure α := do
  let value ← scanText (decoder.scan greatestDepth) text
  match decoder.ofJson value with
  | .ok decoded => return decoded
  | .error problem => throw ⟨problem, none⟩

/-- The report of a value of the wrong type. Scalars are read first, so that a
fault inside them is reported instead. -/
def mismatch {α : Type} (expected : String) : Scan α := do
  let report (found : Found) : Scan α := settle (fail (.wrongType found expected))
  match ← peek with
  | none => failAhead .endInValue
  | some c =>
    if c = 'n' then
      bump
      readWord ['u', 'l', 'l']
      report .null
    else if c = 't' then
      bump
      readWord ['r', 'u', 'e']
      report (.boolean true)
    else if c = 'f' then
      bump
      readWord ['a', 'l', 's', 'e']
      report (.boolean false)
    else if c = '-' || isDigit c then
      report (.number (← Numeral.read))
    else if c = '"' then
      bump
      report (.text (← JsonString.read))
    else if c = '[' then report .list
    else if c = '\x7b' then report .object
    else failAhead .expectedValue

/-- Read a value by its first character, or report the wrong type. -/
def scanToken (expected : String) (opens : Char → Bool) (body : Char → Scan Json) : Scan Json := do
  match ← peekToken with
  | none => failAhead .endInValue
  | some c => if opens c then body c else mismatch expected

/-- Accept a value that was read if it decodes, and report its place if not. -/
def checked {α : Type} (decode : Json → Except JsonProblem α) (value : Json) : Scan Json :=
  match decode value with
  | .ok _ => return value
  | .error problem => settle (fail problem)

def any : Decoder Json where
  ofJson value := .ok value
  scan := readValue

def text : Decoder String where
  ofJson
    | .text value => .ok value
    | value => .error (.wrongType value.found "a string")
  scan _ := scanToken "a string" (· = '"') fun _ => do
    bump
    return .text (← JsonString.read)

def flag : Decoder Bool where
  ofJson
    | .boolean value => .ok value
    | value => .error (.wrongType value.found "a boolean")
  scan _ := scanToken "a boolean" (fun c => c = 't' || c = 'f') fun c =>
    if c = 't' then readConstant ['r', 'u', 'e'] (.boolean true)
    else readConstant ['a', 'l', 's', 'e'] (.boolean false)

def naturalBelow (bound : Nat) (expected : String) (value : Json) : Except JsonProblem Nat :=
  match value with
  | .number (.integer size) =>
    if 0 ≤ size ∧ size < bound then .ok size.toNat
    else .error (.wrongValue value.found expected)
  | _ => .error (.wrongType value.found expected)

def opensNumeral (c : Char) : Bool :=
  c = '-' || isDigit c

def word64 : Decoder UInt64 where
  ofJson value := (naturalBelow UInt64.size "u64" value).map UInt64.ofNat
  scan _ := scanToken "u64" opensNumeral fun _ => do
    checked (naturalBelow UInt64.size "u64") (.number (← Numeral.read))

def word32 : Decoder UInt32 where
  ofJson value := (naturalBelow (UInt32.size) "u32" value).map UInt32.ofNat
  scan _ := scanToken "u32" opensNumeral fun _ => do
    checked (naturalBelow (UInt32.size) "u32") (.number (← Numeral.read))

/-- Floating-point numbers; an integer is taken for the nearest one. -/
def double : Decoder Binary64 where
  ofJson
    | .number (.double value) => .ok value
    | .number (.integer value) => .ok (Binary64.ofInt value)
    | value => .error (.wrongType value.found "f64")
  scan _ := scanToken "f64" opensNumeral fun _ => return .number (← Numeral.read)

def nullable {α : Type} (inner : Decoder α) : Decoder (Option α) where
  ofJson
    | .null => .ok none
    | value => (inner.ofJson value).map some
  scan depth := do
    match ← peekToken with
    | some 'n' => readConstant ['u', 'l', 'l'] .null
    | _ => inner.scan depth

def deeper {α : Type} (depth : Nat) (inside : Nat → Scan α) (ending : Scan Unit) : Scan α :=
  match depth with
  | 0 => failAhead .tooDeep
  | depth + 1 => do
    bump
    closing (inside depth) ending

def list {α : Type} (item : Decoder α) : Decoder (List α) where
  ofJson
    | .list items => items.mapM item.ofJson
    | value => .error (.wrongType value.found "a sequence")
  scan depth := settle <| scanToken "a sequence" (· = '[') fun _ => do
    let steps ← stepsLeft
    return .list (← deeper depth (fun inner => readItems (item.scan inner) steps true) endList)

def entries : Decoder (List (String × Json)) where
  ofJson
    | .object held => .ok held
    | value => .error (.wrongType value.found "a map")
  scan depth := settle <| scanToken "a map" (· = '\x7b') fun _ => do
    let steps ← stepsLeft
    return .object (sortedEntries
      (← deeper depth (fun inner => readEntries (readValue inner) steps true) endObject))

def named {α : Type} (choices : List (String × α)) (name : String) : Except JsonProblem α :=
  match choices.lookup name with
  | some value => .ok value
  | none => .error (.unknownVariant name (choices.map Prod.fst))

/-- One of several named values. The name may also stand as the only key of an
object, over null. -/
def choice {α : Type} (choices : List (String × α)) : Decoder α where
  ofJson
    | .text name => named choices name
    | .object [(name, value)] => do
      let chosen ← named choices name
      match value with
      | .null => return chosen
      | value => throw (.wrongType value.found "unit")
    | .object _ => .error (.wrongValue .object "map with a single key")
    | value => .error (.wrongType value.found "string or map")
  scan depth := do
    let readName : Scan Json := do
      bump
      let name ← JsonString.read
      discard (checked (fun _ => named choices name) .null)
      return .text name
    match ← peekToken with
    | none => failAhead .endInValue
    | some c =>
      if c = '"' then readName
      else if c = '\x7b' then
        match depth with
        | 0 => failAhead .tooDeep
        | _ + 1 =>
          bump
          let name ← scanToken "variant identifier" (· = '"') fun _ => readName
          readColon
          discard <| scanToken "unit" (· = 'n') fun _ => readConstant ['u', 'l', 'l'] .null
          match ← peekToken with
          | none => failHere .endInObject
          | some c =>
            if c = '\x7d' then
              bump
              return name
            else failHere .expectedValue
      else failAhead .expectedValue

/-- Values that satisfy a further condition. Where it fails, the container of
the value settles the place. -/
def refine {α β : Type} (inner : Decoder β) (accept : β → Except String α) : Decoder α where
  ofJson value := do
    match accept (← inner.ofJson value) with
    | .ok accepted => return accepted
    | .error message => throw (.rejected message)
  scan depth := do
    let value ← inner.scan depth
    match inner.ofJson value with
    | .error problem => fail problem
    | .ok decoded =>
      match accept decoded with
      | .ok _ => return value
      | .error message => fail (.rejected message)

end Decoder

/-- One field of a record, without its type. -/
structure FieldSpec where
  name : String
  required : Bool
  /-- What is wrong with a value of the field. -/
  complaint : Json → Option JsonProblem
  scan : Nat → Scan Json

/-- The fields of a record: their descriptions in declared order, and how the
record is built from the values that stand under their names. -/
structure Fields (α : Type) where
  specs : List FieldSpec
  build : (String → Option Json) → Except JsonProblem α

namespace Fields

def complaintOf {α : Type} (decoder : Decoder α) (value : Json) : Option JsonProblem :=
  match decoder.ofJson value with
  | .ok _ => none
  | .error problem => some problem

def required {α : Type} (name : String) (decoder : Decoder α) : Fields α where
  specs := [⟨name, true, complaintOf decoder, decoder.scan⟩]
  build find :=
    match find name with
    | none => .error (.missingField name)
    | some value => decoder.ofJson value

def withDefault {α : Type} (name : String) (fallback : α) (decoder : Decoder α) : Fields α where
  specs := [⟨name, false, complaintOf decoder, decoder.scan⟩]
  build find :=
    match find name with
    | none => .ok fallback
    | some value => decoder.ofJson value

def optional {α : Type} (name : String) (decoder : Decoder α) : Fields (Option α) :=
  withDefault name none (Decoder.nullable decoder)

def textOrEmpty (name : String) : Fields String :=
  withDefault name "" Decoder.text

instance : Applicative Fields where
  pure value := ⟨[], fun _ => .ok value⟩
  seq functions arguments :=
    let arguments := arguments ()
    ⟨functions.specs ++ arguments.specs, fun find => do
      let function ← functions.build find
      let argument ← arguments.build find
      return function argument⟩

def spec? (specs : List FieldSpec) (name : String) : Option FieldSpec :=
  specs.find? fun spec => spec.name == name

/-- What is wrong with an entry of an object. Entries under names that the
record does not have are never wrong. -/
def entryComplaint (specs : List FieldSpec) (entry : String × Json) : Option JsonProblem :=
  (spec? specs entry.1).bind fun spec => spec.complaint entry.2

def lengthText (name : String) (specs : List FieldSpec) : String :=
  let plural := if specs.length = 1 then "" else "s"
  s!"struct {name} with {specs.length} element{plural}"

/-- The first field that must be present but lies beyond the end of a list. -/
def missingAt (specs : List FieldSpec) (length : Nat) : Option Nat :=
  ((specs.zipIdx.drop length).find? fun (spec, _) => spec.required).map Prod.snd

def listComplaint (name : String) (specs : List FieldSpec) (items : List Json) :
    Option JsonProblem :=
  match (specs.zip items).findSome? fun (spec, value) => spec.complaint value with
  | some problem => some problem
  | none =>
    match missingAt specs items.length with
    | some index => some (.wrongLength index (lengthText name specs))
    | none =>
      if specs.length < items.length then
        some (.wrongLength items.length "fewer elements in array")
      else none

open Scan Json

/-- Scan the entries of a record up to its closing brace. -/
def scanEntries (specs : List FieldSpec) (depth : Nat) :
    Nat → Bool → List (String × Json) → Scan (List (String × Json))
  | 0, _, _ => failHere .endInObject
  | steps + 1, first, seen => do
    if ← entryFollows first then
      let key ← readKey
      match spec? specs key with
      | none =>
        readColon
        ignoreValue
        scanEntries specs depth steps false seen
      | some spec =>
        if seen.any fun entry => entry.1 == key then fail (.duplicateField key)
        else
          readColon
          let value ← spec.scan depth
          scanEntries specs depth steps false ((key, value) :: seen)
    else
      match specs.find? fun spec => spec.required && !seen.any fun entry => entry.1 == spec.name with
      | some spec => fail (.missingField spec.name)
      | none => return seen

/-- Scan a record written as a list, up to the bracket or the item that follows
its last field. -/
def scanItems (lengthText : String) (depth : Nat) : List FieldSpec → Nat → Bool → Scan (List Json)
  | [], _, _ => return []
  | spec :: rest, index, first => do
    let element : Scan (List Json) := do
      let value ← spec.scan depth
      return value :: (← scanItems lengthText depth rest (index + 1) false)
    match ← peekToken with
    | none => failAhead .endInList
    | some c =>
      if c = ']' then
        if spec.required then fail (.wrongLength index lengthText)
        else scanItems lengthText depth rest (index + 1) first
      else if first then element
      else if c = ',' then
        bump
        match ← peekToken with
        | none => failAhead .endInValue
        | some c => if c = ']' then failAhead .trailingComma else element
      else failAhead .expectedListComma

end Fields

namespace Decoder

open Scan Json

def record {α : Type} (name : String) (fields : Fields α) : Decoder α where
  ofJson
    | .object held =>
      match held.findSome? (Fields.entryComplaint fields.specs) with
      | some problem => .error problem
      | none => fields.build fun key => held.lookup key
    | .list items =>
      match Fields.listComplaint name fields.specs items with
      | some problem => .error problem
      | none => fields.build fun key => ((fields.specs.map FieldSpec.name).zip items).lookup key
    | value => .error (.wrongType value.found s!"struct {name}")
  scan depth := settle <|
    scanToken s!"struct {name}" (fun c => c = '[' || c = '\x7b') fun c => do
      let steps ← stepsLeft
      if c = '[' then
        return .list (← deeper depth
          (fun inner => Fields.scanItems (Fields.lengthText name fields.specs) inner
            fields.specs 0 true)
          endList)
      else
        return .object (← deeper depth
          (fun inner => Fields.scanEntries fields.specs inner steps true []) endObject)

end Decoder

end ConnectorConsole
