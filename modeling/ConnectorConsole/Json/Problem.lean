import ConnectorConsole.Json.Printer
import ConnectorConsole.Text.Blank
import ConnectorConsole.Text.Quoted

/-!
# What can be wrong with JSON

A text may break the grammar, and a well-formed value may have the wrong shape.
Both kinds are causes; the wording of each stands in one function.
-/

namespace ConnectorConsole

/-- A breach of the JSON grammar. -/
inductive SyntaxFault where
  | endInValue
  | endInList
  | endInObject
  | endInString
  | expectedColon
  | expectedListComma
  | expectedObjectComma
  | expectedWord
  | expectedValue
  | invalidEscape
  | invalidNumber
  | numberOutOfRange
  | controlCharacter
  | loneSurrogate
  | unfinishedEscape
  | keyNotText
  | trailingComma
  | trailingCharacters
  | tooDeep
deriving DecidableEq, Repr

def SyntaxFault.message : SyntaxFault → String
  | .endInValue => "EOF while parsing a value"
  | .endInList => "EOF while parsing a list"
  | .endInObject => "EOF while parsing an object"
  | .endInString => "EOF while parsing a string"
  | .expectedColon => "expected `:`"
  | .expectedListComma => "expected `,` or `]`"
  | .expectedObjectComma => "expected `,` or `\x7d`"
  | .expectedWord => "expected ident"
  | .expectedValue => "expected value"
  | .invalidEscape => "invalid escape"
  | .invalidNumber => "invalid number"
  | .numberOutOfRange => "number out of range"
  | .controlCharacter => "control character (\\u0000-\\u001F) found while parsing a string"
  | .loneSurrogate => "lone leading surrogate in hex escape"
  | .unfinishedEscape => "unexpected end of hex escape"
  | .keyNotText => "key must be a string"
  | .trailingComma => "trailing comma"
  | .trailingCharacters => "trailing characters"
  | .tooDeep => "recursion limit exceeded"

/-- What stands where something else was expected. -/
inductive Found where
  | null
  | boolean (value : Bool)
  | number (value : JsonNumber)
  | text (value : String)
  | list
  | object
deriving DecidableEq, Repr

def Found.message : Found → String
  | .null => "null"
  | .boolean value => s!"boolean `{value}`"
  | .number (.integer value) => s!"integer `{value}`"
  | .number (.double value) => s!"floating point `{Binary64.Layout.json.text value}`"
  | .text value => s!"string {Text.quoted value}"
  | .list => "sequence"
  | .object => "map"

/-- What a value is, as seen by a reader that expected something else. -/
def Json.found : Json → Found
  | .null => .null
  | .boolean value => .boolean value
  | .number value => .number value
  | .text value => .text value
  | .list _ => .list
  | .object _ => .object

/-- Why a text or a value is not what its reader expects. -/
inductive JsonProblem where
  | wrongType (found : Found) (expected : String)
  | wrongValue (found : Found) (expected : String)
  | wrongLength (length : Nat) (expected : String)
  | missingField (name : String)
  | duplicateField (name : String)
  | unknownVariant (name : String) (known : List String)
  | rejected (message : String)
  | badSyntax (fault : SyntaxFault)
deriving DecidableEq, Repr

def knownNames (names : List String) : String :=
  let quotedNames := names.map fun name => s!"`{name}`"
  match quotedNames with
  | [] => "there are no variants"
  | [name] => name
  | [first, second] => s!"{first} or {second}"
  | _ => "one of " ++ Text.join ", " quotedNames

def JsonProblem.message : JsonProblem → String
  | .wrongType found expected => s!"invalid type: {found.message}, expected {expected}"
  | .wrongValue found expected => s!"invalid value: {found.message}, expected {expected}"
  | .wrongLength length expected => s!"invalid length {length}, expected {expected}"
  | .missingField name => s!"missing field `{name}`"
  | .duplicateField name => s!"duplicate field `{name}`"
  | .unknownVariant name known =>
    match known with
    | [] => s!"unknown variant `{name}`, there are no variants"
    | _ => s!"unknown variant `{name}`, expected {knownNames known}"
  | .rejected message => message
  | .badSyntax fault => fault.message

end ConnectorConsole
