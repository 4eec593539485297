/-!
# Binary floating-point numbers

Numbers of the 64-bit binary format are kept as a sign, a significand below
2^53 and a power of two, so that every operation is exact arithmetic on natural
numbers followed by one rounding. Rounding is to nearest, and a tie goes to the
even significand.
-/

namespace ConnectorConsole

/-- A number of the 64-bit binary format. A finite value is the significand
times two to the exponent. -/
inductive Binary64 where
  | finite (negative : Bool) (significand : Nat) (exponent : Int)
  | infinite (negative : Bool)
  | undefined
deriving DecidableEq, Repr, Inhabited

namespace Binary64

/-- The exponent shared by zero and the subnormal numbers. -/
def leastExponent : Int := -1074

/-- The exponent of the largest finite numbers. -/
def greatestExponent : Int := 971

def zero (negative : Bool) : Binary64 :=
  .finite negative 0 leastExponent

/-- The least natural number that a significand does not reach, two to the 53. -/
def significandBound : Nat := 9007199254740992

/-- The least significand of a number whose exponent is not the least one. -/
def normalBound : Nat := 4503599627370496

def tenTo (power : Nat) : Nat :=
  Nat.pow 10 power

/-- The quotient of two natural numbers rounded to nearest, ties to even. -/
def roundQuotient (numerator denominator : Nat) : Nat :=
  let quotient := numerator / denominator
  let twice := 2 * (numerator % denominator)
  if twice < denominator then quotient
  else if denominator < twice then quotient + 1
  else if quotient % 2 = 0 then quotient else quotient + 1

/-- The ratio divided by two to the exponent, rounded to nearest. -/
def roundScaled (numerator denominator : Nat) (exponent : Int) : Nat :=
  if 0 ≤ exponent then roundQuotient numerator (denominator <<< exponent.toNat)
  else roundQuotient (numerator <<< (-exponent).toNat) denominator

/-- Whether the ratio lies below two to the exponent. -/
def belowPower (numerator denominator : Nat) (exponent : Int) : Bool :=
  if 0 ≤ exponent then numerator < denominator <<< exponent.toNat
  else numerator <<< (-exponent).toNat < denominator

/-- The exponent at which the ratio has 53 significant bits, or the least one. -/
def exponentOf (numerator denominator : Nat) : Int :=
  let guess : Int := (numerator.log2 : Int) - denominator.log2 - 53
  max leastExponent (if belowPower numerator denominator (guess + 53) then guess else guess + 1)

/-- The nearest number to a ratio of natural numbers with the given sign. -/
def ofRatio (negative : Bool) (numerator denominator : Nat) : Binary64 :=
  if numerator = 0 then zero negative
  else
    let exponent := exponentOf numerator denominator
    let significand := roundScaled numerator denominator exponent
    let (significand, exponent) :=
      if significand = significandBound then (normalBound, exponent + 1)
      else (significand, exponent)
    if greatestExponent < exponent then .infinite negative
    else .finite negative significand exponent

def ofNat (number : Nat) : Binary64 :=
  ofRatio false number 1

def ofInt (number : Int) : Binary64 :=
  ofRatio (number < 0) number.natAbs 1

def powerRatio (exponent : Int) : Nat × Nat :=
  if 0 ≤ exponent then (1 <<< exponent.toNat, 1) else (1, 1 <<< (-exponent).toNat)

/-- The ratio of natural numbers that a significand and an exponent stand for. -/
def ratio (significand : Nat) (exponent : Int) : Nat × Nat :=
  let (numerator, denominator) := powerRatio exponent
  (significand * numerator, denominator)

/-- The integer part, rounded toward zero; an infinite or undefined number has
none. -/
def integerPart? : Binary64 → Option Int
  | .finite negative significand exponent =>
    let (numerator, denominator) := ratio significand exponent
    let part : Nat := numerator / denominator
    some (if negative then -part else part)
  | _ => none

def isFinite : Binary64 → Bool
  | .finite .. => true
  | _ => false

def neg : Binary64 → Binary64
  | .finite negative significand exponent => .finite (!negative) significand exponent
  | .infinite negative => .infinite (!negative)
  | .undefined => .undefined

end Binary64

end ConnectorConsole
