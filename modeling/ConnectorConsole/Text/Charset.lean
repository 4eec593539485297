import ConnectorConsole.Text.Blank
import ConnectorConsole.Text.Utf8

/-!
# Character sets of bodies

Octets that open with the mark of a character set are read in that set. Without a
mark, the announced type may name the set, and a set that is not named is UTF-8.
The sets read here are those that need no tables of their own; a name that is not
known counts as none.
-/

namespace ConnectorConsole

inductive Charset where
  | utf8
  | utf16 (bigEndian : Bool)
  /-- The western set, which every name for ASCII and for Latin-1 stands for. -/
  | western
deriving DecidableEq, Repr

namespace Charset

/-- The names of a set, in lower case. -/
def names : Charset → List String
  | .utf8 =>
    ["utf-8", "utf8", "unicode-1-1-utf-8", "unicode11utf8", "unicode20utf8", "x-unicode20utf8"]
  | .utf16 false =>
    ["utf-16le", "utf-16", "csunicode", "iso-10646-ucs-2", "ucs-2", "unicode", "unicodefeff"]
  | .utf16 true => ["utf-16be", "unicodefffe"]
  | .western =>
    ["windows-1252", "ansi_x3.4-1968", "ascii", "cp1252", "cp819", "csisolatin1", "ibm819",
     "iso-8859-1", "iso-ir-100", "iso8859-1", "iso88591", "iso_8859-1", "iso_8859-1:1987", "l1",
     "latin1", "us-ascii", "x-cp1252"]

def all : List Charset := [.utf8, .utf16 false, .utf16 true, .western]

/-- What the parameter of a content type with this name is set to, without the
quotation marks that may stand around it. -/
def parameter? (name contentType : String) : Option String :=
  (Text.splitOn (· == ';') contentType.toList).tail.findSome? fun piece =>
    match Text.cut '=' piece with
    | some (key, value) =>
      if Text.lowerAscii (Text.trim (String.ofList key)) = name then
        some (String.ofList ((Text.trimRight (Text.trimLeft value)).filter (· != '"')))
      else none
    | none => none

/-- The set that an announced type names. -/
def ofType (contentType : Option String) : Charset :=
  let name := Text.lowerAscii ((contentType.bind (parameter? "charset")).getD "")
  (all.find? fun set => set.names.contains name).getD .utf8

/-- The units of two octets each, with nothing for an octet that is left over. -/
def units (bigEndian : Bool) : List UInt8 → List (Option Nat)
  | first :: second :: rest =>
    let unit :=
      if bigEndian then first.toNat * 0x100 + second.toNat
      else second.toNat * 0x100 + first.toNat
    some unit :: units bigEndian rest
  | [_] => [none]
  | [] => []

def isHigh (unit : Nat) : Bool :=
  0xD800 ≤ unit && unit < 0xDC00

def isLow (unit : Nat) : Bool :=
  0xDC00 ≤ unit && unit < 0xE000

/-- The characters of units, read after the first half of a pair if there is one. U+FFFD
stands for a half without the other. -/
def charsFrom (high : Option Nat) : List (Option Nat) → List Char
  | [] => if high.isSome then ['\ufffd'] else []
  | none :: _ => ['\ufffd']
  | some unit :: rest =>
    let lost := if high.isSome then ['\ufffd'] else []
    if isHigh unit then lost ++ charsFrom (some unit) rest
    else if isLow unit then
      let char := match high with
        | some high => Char.ofNat (0x10000 + (high - 0xD800) * 0x400 + (unit - 0xDC00))
        | none => '\ufffd'
      char :: charsFrom none rest
    else lost ++ Char.ofNat unit :: charsFrom none rest

/-- The characters that the western set has for the octets from 0x80 to 0x9F. -/
def westernChars : List Char :=
  ['\u20ac', '\u0081', '\u201a', '\u0192', '\u201e', '\u2026', '\u2020', '\u2021',
   '\u02c6', '\u2030', '\u0160', '\u2039', '\u0152', '\u008d', '\u017d', '\u008f',
   '\u0090', '\u2018', '\u2019', '\u201c', '\u201d', '\u2022', '\u2013', '\u2014',
   '\u02dc', '\u2122', '\u0161', '\u203a', '\u0153', '\u009d', '\u017e', '\u0178']

def westernChar (octet : UInt8) : Char :=
  if 0x80 ≤ octet ∧ octet < 0xA0 then westernChars.getD (octet.toNat - 0x80) '\ufffd'
  else Char.ofNat octet.toNat

/-- The text that octets write in a set. -/
def read (octets : List UInt8) : Charset → String
  | .utf8 => Utf8.repair octets
  | .utf16 bigEndian => String.ofList (charsFrom none (units bigEndian octets))
  | .western => String.ofList (octets.map westernChar)

/-- The marks that may stand in front of a text, each with its set. -/
def marks : List (List UInt8 × Charset) :=
  [([0xEF, 0xBB, 0xBF], .utf8), ([0xFF, 0xFE], .utf16 false), ([0xFE, 0xFF], .utf16 true)]

/-- The text of a body of the announced type. -/
def bodyText (contentType : Option String) (octets : List UInt8) : String :=
  match marks.find? fun entry => entry.1.isPrefixOf octets with
  | some (mark, set) => set.read (octets.drop mark.length)
  | none => (ofType contentType).read octets

end Charset

end ConnectorConsole
