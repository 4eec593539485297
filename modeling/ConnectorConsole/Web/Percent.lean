import ConnectorConsole.Text.Utf8

/-!
# Percent encoding

A byte is written as a percent sign and two hexadecimal digits. Reading leaves a
percent sign alone that two such digits do not follow.
-/

namespace ConnectorConsole

namespace Percent

/-- The capital hexadecimal digit of a number below sixteen. -/
def hexDigit (number : Nat) : Char :=
  (Nat.digitChar number).toUpper

def hexValue? (c : Char) : Option Nat :=
  if '0' ≤ c ∧ c ≤ '9' then some (c.toNat - '0'.toNat)
  else if 'a' ≤ c ∧ c ≤ 'f' then some (c.toNat - 'a'.toNat + 10)
  else if 'A' ≤ c ∧ c ≤ 'F' then some (c.toNat - 'A'.toNat + 10)
  else none

def hexByte? (byte : UInt8) : Option Nat :=
  hexValue? (Char.ofNat byte.toNat)

def encodeByte (byte : UInt8) : List Char :=
  ['%', hexDigit (byte.toNat / 16), hexDigit (byte.toNat % 16)]

/-- A character with its bytes encoded where `escapes` asks for it. -/
def encodeChar (escapes : Char → Bool) (c : Char) : List Char :=
  if escapes c then (String.utf8EncodeChar c).flatMap encodeByte else [c]

def encode (escapes : Char → Bool) (text : String) : String :=
  String.ofList (text.toList.flatMap (encodeChar escapes))

def decodeBytes : List UInt8 → List UInt8
  | [] => []
  | 0x25 :: high :: low :: rest =>
    match hexByte? high, hexByte? low with
    | some first, some second => UInt8.ofNat (16 * first + second) :: decodeBytes rest
    | _, _ => 0x25 :: decodeBytes (high :: low :: rest)
  | byte :: rest => byte :: decodeBytes rest

/-- The text that an encoded text stands for, malformed bytes repaired. -/
def decode (text : String) : String :=
  Utf8.repair (decodeBytes (Utf8.encode text))

end Percent

end ConnectorConsole
