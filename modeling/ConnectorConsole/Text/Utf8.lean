/-!
# UTF-8

Bytes are read one at a time. A byte that cannot continue the sequence before
it closes that sequence as malformed and is then read afresh, so one malformed
sequence stands for each longest run of bytes that begins a character without
ending it.
-/

namespace ConnectorConsole

namespace Utf8

/-- A character that has begun: the bytes still owed, the range of the next
byte, and the bits collected so far. -/
structure Pending where
  owed : Nat
  low : UInt8
  high : UInt8
  bits : Nat

/-- A byte read with no character begun. -/
inductive Opening where
  | complete (char : Char)
  | pending (begun : Pending)
  | malformed

/-- What the first byte of a character says about the bytes to come. -/
def opening (byte : UInt8) : Opening :=
  if byte < 0x80 then .complete (Char.ofNat byte.toNat)
  else if byte < 0xC2 then .malformed
  else if byte < 0xE0 then .pending ⟨1, 0x80, 0xBF, byte.toNat % 0x20⟩
  else if byte = 0xE0 then .pending ⟨2, 0xA0, 0xBF, 0⟩
  else if byte = 0xED then .pending ⟨2, 0x80, 0x9F, 0xD⟩
  else if byte < 0xF0 then .pending ⟨2, 0x80, 0xBF, byte.toNat % 0x10⟩
  else if byte = 0xF0 then .pending ⟨3, 0x90, 0xBF, 0⟩
  else if byte < 0xF4 then .pending ⟨3, 0x80, 0xBF, byte.toNat % 0x08⟩
  else if byte = 0xF4 then .pending ⟨3, 0x80, 0x8F, 4⟩
  else .malformed

/-- The characters that one byte completes, with nothing for a malformed
sequence, and the character left begun. -/
def step (before : Option Pending) (byte : UInt8) : List (Option Char) × Option Pending :=
  match before with
  | some begun =>
    if begun.low ≤ byte ∧ byte ≤ begun.high then
      let bits := begun.bits * 0x40 + byte.toNat % 0x40
      if begun.owed ≤ 1 then ([some (Char.ofNat bits)], none)
      else ([], some ⟨begun.owed - 1, 0x80, 0xBF, bits⟩)
    else
      match opening byte with
      | .complete char => ([none, some char], none)
      | .pending next => ([none], some next)
      | .malformed => ([none, none], none)
  | none =>
    match opening byte with
    | .complete char => ([some char], none)
    | .pending next => ([], some next)
    | .malformed => ([none], none)

/-- The characters of a byte sequence, read after the given beginning. -/
def scanFrom (before : Option Pending) : List UInt8 → List (Option Char)
  | [] => if before.isSome then [none] else []
  | byte :: rest =>
    let (chars, after) := step before byte
    chars ++ scanFrom after rest

/-- The characters of a byte sequence, with nothing for each malformed one. -/
def scan (bytes : List UInt8) : List (Option Char) :=
  scanFrom none bytes

/-- The text of a byte sequence, U+FFFD standing for each malformed one. -/
def repair (bytes : List UInt8) : String :=
  String.ofList ((scan bytes).map fun char => char.getD '\ufffd')

/-- The text of a byte sequence without malformed ones. -/
def decode? (bytes : List UInt8) : Option String :=
  ((scan bytes).mapM id).map String.ofList

def encode (text : String) : List UInt8 :=
  text.toList.flatMap String.utf8EncodeChar

end Utf8

end ConnectorConsole
