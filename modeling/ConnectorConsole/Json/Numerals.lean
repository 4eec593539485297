import ConnectorConsole.Json.Cursor
import ConnectorConsole.Number.Reading

/-!
# JSON numerals

A numeral without point and exponent is an integer when it fits a machine word.
Any other numeral is read in two roundings: its leading digits, as many as fit
64 bits, to the nearest number, and then the product or quotient of that with
the nearest number to a power of ten.
-/

namespace ConnectorConsole

namespace Numeral

/-- Extend a number by decimal digits as long as it fits 64 bits. The second
component counts the digits left out. -/
def absorb (value : Nat) : List Char → Nat × Nat
  | [] => (value, 0)
  | digit :: rest =>
    let extended := 10 * value + digitValue digit
    if extended < UInt64.size then absorb extended rest else (value, rest.length + 1)

/-- The largest power of ten that is a finite number. -/
def greatestPower : Nat := 308

/-- The product of a number with the nearest number to a power of ten. -/
def timesPower (value : Binary64) (power : Nat) : Binary64 :=
  match value, Binary64.ofNat (Binary64.tenTo power) with
  | .finite negative significand exponent, .finite _ significand' exponent' =>
    let (numerator, denominator) := Binary64.ratio (significand * significand') (exponent + exponent')
    Binary64.ofRatio negative numerator denominator
  | value, _ => value

/-- The quotient of a number by the nearest number to a power of ten. -/
def overPower (value : Binary64) (power : Nat) : Binary64 :=
  match value, Binary64.ofNat (Binary64.tenTo power) with
  | .finite negative significand exponent, .finite _ significand' exponent' =>
    let (numerator, denominator) := Binary64.ratio significand (exponent - exponent')
    Binary64.ofRatio negative numerator (denominator * significand')
  | value, _ => value

/-- Digits times a power of ten, or nothing when that is out of range. Small
values are reached in at most two steps; below that nothing is left. -/
def scaled? (digits : Nat) (exponent : Int) : Option Binary64 :=
  let value := Binary64.ofNat digits
  let power := exponent.natAbs
  if 0 ≤ exponent then
    if power ≤ greatestPower then
      let product := timesPower value power
      if product.isFinite then some product else none
    else if digits = 0 then some value else none
  else if power ≤ greatestPower then some (overPower value power)
  else if power ≤ 2 * greatestPower then
    some (overPower (overPower value greatestPower) (power - greatestPower))
  else some (Binary64.zero false)

def signed (negative : Bool) (value : Binary64) : JsonNumber :=
  .double (if negative then value.neg else value)

/-- A numeral without point and exponent. Minus zero and numbers below the
machine range are floating-point. -/
def whole (negative : Bool) (digits : Nat) : JsonNumber :=
  if !negative then .integer digits
  else if 0 < digits ∧ 2 * digits ≤ UInt64.size then .integer (-(digits : Int))
  else signed true (Binary64.ofNat digits)

open Scan

def readScaled (negative : Bool) (digits : Nat) (exponent : Int) : Scan JsonNumber :=
  match scaled? digits exponent with
  | some value => return signed negative value
  | none => failHere .numberOutOfRange

/-- The greatest exponent that is read digit by digit. -/
def greatestExponent : Nat := 2147483647

/-- How many leading digits it takes to exceed the greatest exponent. -/
def excessLength (value : Nat) : List Char → Nat
  | [] => 0
  | digit :: rest =>
    let extended := 10 * value + digitValue digit
    if greatestExponent < extended then 1 else excessLength extended rest + 1

/-- The exponent of a numeral, the cursor standing at its mark. -/
def readExponent (negative : Bool) (digits : Nat) (start : Int) : Scan JsonNumber := do
  bump
  let below ← match ← peek with
    | some '+' => bump; pure false
    | some '-' => bump; pure true
    | _ => pure false
  match ← peek with
  | none => failHere .endInValue
  | some c =>
    if !isDigit c then failAhead .invalidNumber
    else
      let mark := (← get).mark
      let power ← takeWhile isDigit
      let size := decimalValue power
      if size ≤ greatestExponent then
        readScaled negative digits (if below then start - size else start + size)
      else if digits ≠ 0 ∧ !below then
        throw ⟨.badSyntax .numberOutOfRange,
          some ⟨mark.line, mark.column + excessLength 0 power⟩⟩
      else return signed negative (Binary64.zero false)

/-- What follows the digits of a numeral before its exponent. -/
def readAfterDigits (negative : Bool) (digits : Nat) (exponent : Int) : Scan JsonNumber := do
  match ← peek with
  | some 'e' => readExponent negative digits exponent
  | some 'E' => readExponent negative digits exponent
  | _ => readScaled negative digits exponent

/-- The fraction of a numeral, the cursor standing at its point. -/
def readFraction (negative : Bool) (digits leftOut : Nat) : Scan JsonNumber := do
  bump
  let places ← takeWhile isDigit
  if places.isEmpty then
    match ← peek with
    | none => failHere .endInValue
    | some _ => failAhead .invalidNumber
  else
    let (extended, excess) := absorb digits places
    readAfterDigits negative extended ((leftOut : Int) - (places.length - excess : Nat))

def readAfterWhole (negative : Bool) (digits leftOut : Nat) : Scan JsonNumber := do
  match ← peek with
  | some '.' => readFraction negative digits leftOut
  | some 'e' => readExponent negative digits leftOut
  | some 'E' => readExponent negative digits leftOut
  | _ => if leftOut = 0 then return whole negative digits else readScaled negative digits leftOut

/-- A numeral, the cursor standing after its sign. -/
def readUnsigned (negative : Bool) : Scan JsonNumber := do
  match ← peek with
  | none => failHere .endInValue
  | some '0' =>
    bump
    match ← peek with
    | some c => if isDigit c then failAhead .invalidNumber else readAfterWhole negative 0 0
    | none => readAfterWhole negative 0 0
  | some c =>
    if isDigit c then
      let (digits, leftOut) := absorb 0 (← takeWhile isDigit)
      readAfterWhole negative digits leftOut
    else failAhead .invalidNumber

/-- A numeral, the cursor standing at its sign or first digit. -/
def read : Scan JsonNumber := do
  match ← peek with
  | some '-' => bump; readUnsigned true
  | _ => readUnsigned false

def ignoreDigits : Scan Unit := do
  if (← takeWhile isDigit).isEmpty then failAhead .invalidNumber

def ignoreExponent : Scan Unit := do
  if (← peek) = some 'e' || (← peek) = some 'E' then
    bump
    if (← peek) = some '+' || (← peek) = some '-' then bump
    ignoreDigits

/-- Move past a numeral without asking for its value, so that it may be out of
range. -/
def ignore : Scan Unit := do
  if (← peek) = some '-' then bump
  if (← peek) = some '0' then
    bump
    if (← peek).any isDigit then failAhead .invalidNumber
  else ignoreDigits
  if (← peek) = some '.' then
    bump
    ignoreDigits
  ignoreExponent

end Numeral

end ConnectorConsole
