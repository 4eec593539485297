import ConnectorConsole.Json.Value
import ConnectorConsole.Number.Layout

/-!
# Writing JSON

A value has two written forms. The compact form has no blanks at all. The
indented form puts every item and every entry on a line of its own, two spaces
deeper than its container; an empty container stays on one line.
-/

namespace ConnectorConsole

namespace Json

/-- The four hexadecimal digits that name a control character. -/
def controlDigits (code : Nat) : List Char :=
  ['0', '0', Nat.digitChar (code / 16), Nat.digitChar (code % 16)]

def escapedChar (c : Char) : List Char :=
  if c = '"' then ['\\', '"']
  else if c = '\\' then ['\\', '\\']
  else if c = '\x08' then ['\\', 'b']
  else if c = '\x0c' then ['\\', 'f']
  else if c = '\n' then ['\\', 'n']
  else if c = '\r' then ['\\', 'r']
  else if c = '\t' then ['\\', 't']
  else if c.toNat < 0x20 then '\\' :: 'u' :: controlDigits c.toNat
  else [c]

def stringChars (text : String) : List Char :=
  '"' :: text.toList.flatMap escapedChar ++ ['"']

/-- The decimal digits of an integer, with a sign when it is negative. -/
def integerChars : Int → List Char
  | .ofNat size => Binary64.digitsOf size
  | .negSucc size => '-' :: Binary64.digitsOf (size + 1)

def numberChars : JsonNumber → List Char
  | .integer value => integerChars value
  | .double value => Binary64.Layout.json.chars value

/-- A scalar as JSON writes it, alike in both forms. -/
def wordChars : Bool → List Char
  | true => ['t', 'r', 'u', 'e']
  | false => ['f', 'a', 'l', 's', 'e']

mutual

def compactChars : Json → List Char
  | .null => ['n', 'u', 'l', 'l']
  | .boolean value => wordChars value
  | .number value => numberChars value
  | .text value => stringChars value
  | .list items => '[' :: compactItems items
  | .object entries => '\x7b' :: compactEntries entries

/-- The items of a list in compact form, up to the closing bracket. -/
def compactItems : List Json → List Char
  | [] => [']']
  | item :: [] => compactChars item ++ [']']
  | item :: rest => compactChars item ++ ',' :: compactItems rest

/-- The entries of an object in compact form, up to the closing brace. -/
def compactEntries : List (String × Json) → List Char
  | [] => ['\x7d']
  | (key, value) :: [] => stringChars key ++ ':' :: compactChars value ++ ['\x7d']
  | (key, value) :: rest =>
    stringChars key ++ ':' :: compactChars value ++ ',' :: compactEntries rest

end

/-- A line break followed by the indentation of a depth. -/
def lineBreak (depth : Nat) : List Char :=
  '\n' :: List.replicate (2 * depth) ' '

mutual

def indentedChars (depth : Nat) : Json → List Char
  | .null => ['n', 'u', 'l', 'l']
  | .boolean value => wordChars value
  | .number value => numberChars value
  | .text value => stringChars value
  | .list [] => ['[', ']']
  | .list (item :: rest) => '[' :: indentedItems depth (item :: rest)
  | .object [] => ['\x7b', '\x7d']
  | .object (entry :: rest) => '\x7b' :: indentedEntries depth (entry :: rest)

/-- The items of a list in indented form, up to the closing bracket. -/
def indentedItems (depth : Nat) : List Json → List Char
  | [] => lineBreak depth ++ [']']
  | item :: [] =>
    lineBreak (depth + 1) ++ indentedChars (depth + 1) item ++ lineBreak depth ++ [']']
  | item :: rest =>
    lineBreak (depth + 1) ++ indentedChars (depth + 1) item ++ ',' :: indentedItems depth rest

/-- The entries of an object in indented form, up to the closing brace. -/
def indentedEntries (depth : Nat) : List (String × Json) → List Char
  | [] => lineBreak depth ++ ['\x7d']
  | (key, value) :: [] =>
    lineBreak (depth + 1) ++ stringChars key ++ ':' :: ' ' :: indentedChars (depth + 1) value ++
      lineBreak depth ++ ['\x7d']
  | (key, value) :: rest =>
    lineBreak (depth + 1) ++ stringChars key ++ ':' :: ' ' :: indentedChars (depth + 1) value ++
      ',' :: indentedEntries depth rest

end

def compact (value : Json) : String :=
  String.ofList (compactChars value)

def indented (value : Json) : String :=
  String.ofList (indentedChars 0 value)

/-- A text stands for itself and every other value for its compact form. -/
def scalarText : Json → String
  | .text value => value
  | value => compact value

end Json

end ConnectorConsole
