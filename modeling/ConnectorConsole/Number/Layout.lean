import ConnectorConsole.Number.Shortest

/-!
# Layouts of decimal numbers

A layout says how the shortest digits of a number are set out: for which leading
powers of ten the digits are written positionally, whether a whole number keeps
a point, and how the exponent is written otherwise.
-/

namespace ConnectorConsole

namespace Binary64

/-- How the digits of a number are set out as text. -/
structure Layout where
  /-- The least power of ten of the leading digit that is written positionally. -/
  leastPositional : Option Int
  /-- The greatest power of ten of the leading digit that is written positionally. -/
  greatestPositional : Option Int
  /-- Whether a positional whole number ends in a point and a zero. -/
  keepsPoint : Bool
  /-- How equally near decimals are told apart. -/
  tie : DecimalTie

/-- Numbers inside JSON: positional from 10^-5 up to below 10^16, always with a
point, and with a signed exponent elsewhere. -/
def Layout.json : Layout :=
  ⟨some (-5), some 15, true, .toEven⟩

/-- Numbers on a screen: always positional, and without a point when whole. -/
def Layout.screen : Layout :=
  ⟨none, none, false, .upward⟩

/-- Whether a leading power of ten is written positionally. -/
def Layout.positional (layout : Layout) (leading : Int) : Bool :=
  (layout.leastPositional.all fun least => decide (least ≤ leading)) &&
    layout.greatestPositional.all fun greatest => decide (leading ≤ greatest)

def digitsOf (number : Nat) : List Char :=
  Nat.toDigits 10 number

/-- Digits times a power of ten, written without an exponent. -/
def positionalText (keepsPoint : Bool) (digits : List Char) (exponent : Int) : List Char :=
  if 0 ≤ exponent then
    digits ++ List.replicate exponent.toNat '0' ++ (if keepsPoint then ['.', '0'] else [])
  else
    let places := (-exponent).toNat
    let padded := List.replicate (places + 1 - digits.length) '0' ++ digits
    let whole := padded.length - places
    padded.take whole ++ '.' :: padded.drop whole

/-- Digits with a point after the first and the power of ten of that one. -/
def exponentText (digits : List Char) (leading : Int) : List Char :=
  let mantissa := match digits with
    | [] => []
    | [digit] => [digit]
    | digit :: rest => digit :: '.' :: rest
  let sign := if leading < 0 then '-' else '+'
  mantissa ++ 'e' :: sign :: digitsOf leading.natAbs

def Layout.magnitude (layout : Layout) (significand : Nat) (exponent : Int) : List Char :=
  if significand = 0 then
    if layout.keepsPoint then ['0', '.', '0'] else ['0']
  else
    let decimal := shortest layout.tie significand exponent
    let digits := digitsOf decimal.digits
    let leading := decimal.exponent + digits.length - 1
    if layout.positional leading then positionalText layout.keepsPoint digits decimal.exponent
    else exponentText digits leading

def Layout.chars (layout : Layout) : Binary64 → List Char
  | .finite negative significand exponent =>
    (if negative then ['-'] else []) ++ layout.magnitude significand exponent
  | .infinite negative => (if negative then ['-'] else []) ++ ['i', 'n', 'f']
  | .undefined => ['N', 'a', 'N']

def Layout.text (layout : Layout) (number : Binary64) : String :=
  String.ofList (layout.chars number)

/-- A finite number with a fixed count of decimal places. The exact value is
rounded to nearest, and a tie goes to the even digit. -/
def fixedPlaces (places : Nat) : Binary64 → List Char
  | .finite negative significand exponent =>
    let (numerator, denominator) := ratio significand exponent
    let scaled := roundQuotient (numerator * tenTo places) denominator
    (if negative then ['-'] else []) ++
      positionalText false (digitsOf scaled) (-(places : Int))
  | number => Layout.screen.chars number

end Binary64

end ConnectorConsole
