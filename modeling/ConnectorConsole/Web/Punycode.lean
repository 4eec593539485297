/-!
# Punycode

Host names are written in ASCII. The characters beyond ASCII of a label are
taken in ascending order; for each the number of places skipped since the last
one is written in digits of base 36, the place value of which adapts to the
numbers written so far.
-/

namespace ConnectorConsole

namespace Punycode

/-- The digit for a number below 36. -/
def digitChar (number : Nat) : Char :=
  if number < 26 then Char.ofNat (number + 'a'.toNat)
  else Char.ofNat (number - 26 + '0'.toNat)

def digitValue? (c : Char) : Option Nat :=
  if 'a' ≤ c ∧ c ≤ 'z' then some (c.toNat - 'a'.toNat)
  else if 'A' ≤ c ∧ c ≤ 'Z' then some (c.toNat - 'A'.toNat)
  else if '0' ≤ c ∧ c ≤ '9' then some (c.toNat - '0'.toNat + 26)
  else none

/-- The least number that does not end a sequence of digits at a place. -/
def threshold (bias place : Nat) : Nat :=
  min 26 (max 1 (place - bias))

/-- The part of the adaption that grows with the size of a skip. -/
def adaptScale (skip scale : Nat) : Nat :=
  if 455 < skip then adaptScale (skip / 35) (scale + 36)
  else scale + 36 * skip / (skip + 38)
termination_by skip
decreasing_by omega

/-- The bias after a skip, given how many characters are placed by then. -/
def adapt (skip placed : Nat) (first : Bool) : Nat :=
  let damped := if first then skip / 700 else skip / 2
  adaptScale (damped + damped / placed) 0

def digitsFrom (bias place number : Nat) : List Char :=
  let limit := threshold bias place
  if number < limit then [digitChar number]
  else
    digitChar (limit + (number - limit) % (36 - limit)) ::
      digitsFrom bias (place + 36) ((number - limit) / (36 - limit))
termination_by number
decreasing_by
  have positive : 1 ≤ threshold bias place := by unfold threshold; omega
  calc (number - threshold bias place) / (36 - threshold bias place)
      ≤ number - threshold bias place := Nat.div_le_self _ _
    _ < number := by omega

/-- A label that is being written. -/
structure Writer where
  digits : List Char
  /-- Places skipped since the last character. -/
  skip : Nat
  bias : Nat
  /-- Characters placed so far. -/
  placed : Nat

/-- Move past one character while all occurrences of `code` are placed. -/
def Writer.pass (basic code : Nat) (writer : Writer) (c : Char) : Writer :=
  if c.toNat < code then { writer with skip := writer.skip + 1 }
  else if c.toNat = code then
    { digits := writer.digits ++ digitsFrom writer.bias 36 writer.skip
      skip := 0
      bias := adapt writer.skip (writer.placed + 1) (writer.placed = basic)
      placed := writer.placed + 1 }
  else writer

/-- Place the characters of a label under the given codes, in ascending order. -/
def Writer.place (label : List Char) (basic : Nat) : List Nat → Nat → Writer → Writer
  | [], _, writer => writer
  | code :: codes, next, writer =>
    let writer := { writer with skip := writer.skip + (code - next) * (writer.placed + 1) }
    let writer := label.foldl (Writer.pass basic code) writer
    Writer.place label basic codes (code + 1) { writer with skip := writer.skip + 1 }

def isBasic (c : Char) : Bool :=
  c.toNat < 0x80

/-- The codes beyond ASCII in a label, each once and in ascending order. -/
def codesBeyond (label : List Char) : List Nat :=
  (((label.filter fun c => !isBasic c).map Char.toNat).mergeSort).eraseDups

def encode (label : List Char) : List Char :=
  let basic := label.filter isBasic
  let start : Writer := ⟨[], 0, 72, basic.length⟩
  let written := Writer.place label basic.length (codesBeyond label) 0x80 start
  basic ++ (if basic.isEmpty then [] else ['-']) ++ written.digits

/-- A label that is being read. -/
structure Reader where
  label : List Char
  code : Nat
  index : Nat
  bias : Nat
  /-- Place and weight of the next digit, and the index before the number. -/
  place : Nat
  weight : Nat
  start : Nat

/-- Read one digit. The last digit of a number puts a character in its place. -/
def Reader.step (reader : Reader) (c : Char) : Option Reader := do
  let digit ← digitValue? c
  let limit := threshold reader.bias reader.place
  let index := reader.index + digit * reader.weight
  if limit ≤ digit then
    return { reader with
      index := index, place := reader.place + 36, weight := reader.weight * (36 - limit) }
  else
    let size := reader.label.length + 1
    let code := reader.code + index / size
    if 0x110000 ≤ code || (0xD800 ≤ code && code < 0xE000) then failure
    let position := index % size
    return {
      label := reader.label.take position ++ Char.ofNat code :: reader.label.drop position
      code
      index := position + 1
      bias := adapt (index - reader.start) size (reader.start = 0)
      place := 36
      weight := 1
      start := position + 1 }

def decode? (written : List Char) : Option (List Char) := do
  let tail := (written.reverse.takeWhile (· ≠ '-')).reverse
  let basic := written.take (written.length - tail.length - 1)
  let start : Reader := ⟨basic, 0x80, 0, 72, 36, 1, 0⟩
  let done ← tail.foldlM Reader.step start
  if done.place = 36 then return done.label else none

end Punycode

end ConnectorConsole
