import ConnectorConsole.Number.Reading
import ConnectorConsole.Text.Blank
import ConnectorConsole.Web.Percent

/-!
# Form encoding

Query strings are lists of pairs. A pair is a name and a value with an equals
sign between them, pairs are set apart by ampersands, and a plus sign stands for
a space. Everything but letters, digits and four marks is percent-encoded.
-/

namespace ConnectorConsole

namespace FormEncoding

def isPlain (c : Char) : Bool :=
  isDigit c || ('a' ≤ c && c ≤ 'z') || ('A' ≤ c && c ≤ 'Z') ||
    c = '*' || c = '-' || c = '.' || c = '_'

def encodeChar (c : Char) : List Char :=
  if c = ' ' then ['+'] else Percent.encodeChar (fun c => !isPlain c) c

def encodeText (text : String) : String :=
  String.ofList (text.toList.flatMap encodeChar)

def encodePair (pair : String × String) : String :=
  encodeText pair.1 ++ "=" ++ encodeText pair.2

def encode (pairs : List (String × String)) : String :=
  Text.join "&" (pairs.map encodePair)

def decodeText (chars : List Char) : String :=
  Percent.decode (String.ofList (chars.map fun c => if c = '+' then ' ' else c))

/-- The pair that a piece between ampersands stands for. Without an equals sign
the value is empty. -/
def decodePair (piece : List Char) : String × String :=
  match Text.cut '=' piece with
  | some (name, value) => (decodeText name, decodeText value)
  | none => (decodeText piece, "")

/-- The pairs that a query string stands for. Empty pieces are passed over. -/
def decode (query : String) : List (String × String) :=
  ((Text.splitOn (· = '&') query.toList).filter fun piece => !piece.isEmpty).map decodePair

end FormEncoding

end ConnectorConsole
