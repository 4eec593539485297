/-!
# Blank characters

The console trims and splits operator text by the Unicode property White_Space.
This file gives the property as a test on characters, and the trimming and
splitting functions that every other module uses.
-/

namespace ConnectorConsole

namespace Text

/-- The characters with the Unicode property White_Space. -/
def isBlank (c : Char) : Bool :=
  let code := c.toNat
  (9 ≤ code && code ≤ 13) || code == 0x20 || code == 0x85 || code == 0xA0 ||
    code == 0x1680 || (0x2000 ≤ code && code ≤ 0x200A) || code == 0x2028 ||
    code == 0x2029 || code == 0x202F || code == 0x205F || code == 0x3000

def trimLeft (chars : List Char) : List Char :=
  chars.dropWhile isBlank

def trimRight (chars : List Char) : List Char :=
  (trimLeft chars.reverse).reverse

def trim (text : String) : String :=
  String.ofList (trimRight (trimLeft text.toList))

def trimEnd (text : String) : String :=
  String.ofList (trimRight text.toList)

/-- A text is blank when it holds blank characters only. -/
def blank (text : String) : Bool :=
  text.toList.all isBlank

def nonBlank? (text : String) : Option String :=
  if blank text then none else some (trim text)

/-- The pieces of a list between the characters that satisfy `isSeparator`. -/
def splitOn (isSeparator : Char → Bool) : List Char → List (List Char)
  | [] => [[]]
  | c :: rest =>
    match splitOn isSeparator rest with
    | [] => [[c]]
    | piece :: pieces =>
      if isSeparator c then [] :: piece :: pieces else (c :: piece) :: pieces

def fields (isSeparator : Char → Bool) (text : String) : List String :=
  ((splitOn isSeparator text.toList).filter (fun piece => !piece.isEmpty)).map String.ofList

/-- The maximal runs of non-blank characters. -/
def words (text : String) : List String :=
  fields isBlank text

/-- The characters before and after the first occurrence of `mark`. -/
def cut (mark : Char) : List Char → Option (List Char × List Char)
  | [] => none
  | c :: rest =>
    if c = mark then some ([], rest)
    else (cut mark rest).map fun (before, after) => (c :: before, after)

def cutAt (mark : Char) (text : String) : Option (String × String) :=
  (cut mark text.toList).map fun (before, after) =>
    (String.ofList before, String.ofList after)

def occursIn (part : List Char) : List Char → Bool
  | [] => part.isEmpty
  | c :: rest => part.isPrefixOf (c :: rest) || occursIn part rest

/-- Lower-case form that touches the letters A to Z only. -/
def lowerAscii (text : String) : String :=
  String.ofList (text.toList.map Char.toLower)

/-- Upper-case form that touches the letters a to z only. -/
def upperAscii (text : String) : String :=
  String.ofList (text.toList.map Char.toUpper)

/-- Texts written one after another with `separator` between them. -/
def join (separator : String) (texts : List String) : String :=
  separator.intercalate texts

theorem splitOn_ne_nil (isSeparator : Char → Bool) (chars : List Char) :
    splitOn isSeparator chars ≠ [] := by
  cases chars with
  | nil => simp [splitOn]
  | cons c rest =>
      unfold splitOn
      split
      · simp
      · split <;> simp

end Text

end ConnectorConsole
