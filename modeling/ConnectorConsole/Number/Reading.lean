import ConnectorConsole.Number.Layout

/-!
# Reading decimal numbers

Two readers. A decimal text on its own is read to the nearest number. A natural
number of machine size is read within stated bounds, as counts and limits are.
-/

namespace ConnectorConsole

def isDigit (c : Char) : Bool :=
  '0' ≤ c && c ≤ '9'

def digitValue (c : Char) : Nat :=
  c.toNat - '0'.toNat

def decimalValue (digits : List Char) : Nat :=
  digits.foldl (fun value c => 10 * value + digitValue c) 0

/-- The natural number written by a text: an optional plus sign and at least one
digit, nothing else. -/
def readNat? (text : String) : Option Nat :=
  let digits := match text.toList with
    | '+' :: rest => rest
    | chars => chars
  if digits.isEmpty || !digits.all isDigit then none else some (decimalValue digits)

/-- The natural number written by a text, when it lies between the bounds. -/
def readWithin? (least greatest : Nat) (text : String) : Option Nat :=
  (readNat? text).filter fun number => least ≤ number && number ≤ greatest

namespace Binary64

/-- The nearest number to a natural number times a power of ten. Powers far
outside the range of the format need no exact arithmetic. -/
def ofDecimal (negative : Bool) (digits : Nat) (exponent : Int) : Binary64 :=
  if digits = 0 then zero negative
  else
    let size : Int := (digitsOf digits).length + exponent
    if 310 < size then .infinite negative
    else if size < -330 then zero negative
    else if 0 ≤ exponent then ofRatio negative (digits * tenTo exponent.toNat) 1
    else ofRatio negative digits (tenTo (-exponent).toNat)

/-- The power of ten written after the mark of an exponent: an optional sign and
at least one digit. -/
def readExponent? (chars : List Char) : Option Int :=
  match chars with
  | '-' :: digits =>
    if digits.isEmpty || !digits.all isDigit then none else some (-(decimalValue digits : Int))
  | '+' :: digits =>
    if digits.isEmpty || !digits.all isDigit then none else some (decimalValue digits)
  | digits =>
    if digits.isEmpty || !digits.all isDigit then none else some (decimalValue digits)

/-- Digits with an optional point and an optional exponent. -/
def readUnsigned? (negative : Bool) (chars : List Char) : Option Binary64 :=
  let whole := chars.takeWhile isDigit
  let (fraction, rest) := match chars.dropWhile isDigit with
    | '.' :: rest => (rest.takeWhile isDigit, rest.dropWhile isDigit)
    | rest => ([], rest)
  if whole.isEmpty && fraction.isEmpty then none
  else
    let digits := decimalValue (whole ++ fraction)
    let shift : Int := -(fraction.length : Int)
    match rest with
    | [] => some (ofDecimal negative digits shift)
    | mark :: rest =>
      if mark = 'e' || mark = 'E' then
        (readExponent? rest).map fun exponent => ofDecimal negative digits (shift + exponent)
      else none

/-- The number written by a text: an optional sign before a decimal, or before
one of the words for infinity, or the word for an undefined number, in any
letter case. -/
def read? (text : String) : Option Binary64 :=
  let (negative, chars) := match text.toList with
    | '-' :: rest => (true, rest)
    | '+' :: rest => (false, rest)
    | chars => (false, chars)
  let word := String.ofList (chars.map Char.toLower)
  if word = "inf" || word = "infinity" then some (.infinite negative)
  else if word = "nan" then some .undefined
  else readUnsigned? negative chars

end Binary64

end ConnectorConsole
