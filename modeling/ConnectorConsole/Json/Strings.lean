import ConnectorConsole.Json.Cursor
import ConnectorConsole.Number.Reading

/-!
# JSON strings

A string is read character by character. An escape with four hexadecimal digits
names a UTF-16 unit, and a unit from the high surrogates must be followed at
once by an escaped unit from the low ones. A string whose value nobody asks for
is only checked for its escapes.
-/

namespace ConnectorConsole

namespace JsonString

def hexValue? (c : Char) : Option Nat :=
  if isDigit c then some (digitValue c)
  else if 'a' ≤ c ∧ c ≤ 'f' then some (c.toNat - 'a'.toNat + 10)
  else if 'A' ≤ c ∧ c ≤ 'F' then some (c.toNat - 'A'.toNat + 10)
  else none

def hexNumber? (digits : List Char) : Option Nat :=
  digits.foldl (fun value c => do return 16 * (← value) + (← hexValue? c)) (some 0)

def byteCount (chars : List Char) : Nat :=
  chars.foldl (fun count c => count + c.utf8Size) 0

/-- The unit named by the four bytes in front. -/
def unitAhead (mark : Mark) (chars : List Char) : Except ReadFailure Nat :=
  if byteCount (chars.take 4) < 4 then .error ⟨.badSyntax .endInString, some (mark.afterAll chars)⟩
  else
    match hexNumber? (chars.take 4) with
    | some unit =>
      if (chars.take 4).all fun c => c.utf8Size = 1 then .ok unit
      else .error ⟨.badSyntax .invalidEscape, some (mark.afterBytes 4 chars)⟩
    | none => .error ⟨.badSyntax .invalidEscape, some (mark.afterBytes 4 chars)⟩

def shortEscape? (c : Char) : Option Char :=
  if c = '"' then some '"'
  else if c = '\\' then some '\\'
  else if c = '/' then some '/'
  else if c = 'b' then some '\x08'
  else if c = 'f' then some '\x0c'
  else if c = 'n' then some '\n'
  else if c = 'r' then some '\r'
  else if c = 't' then some '\t'
  else none

/-- How far an escape has been read. -/
inductive Stage where
  /-- No escape has begun. -/
  | plain
  /-- A backslash was read. -/
  | escape
  /-- The digits of a unit are being passed; the last of them yields the
  character. -/
  | digits (left : Nat) (char : Char)
  /-- The digits of a high surrogate are being passed. -/
  | highDigits (left : Nat) (unit : Nat)
  /-- A high surrogate was read. -/
  | high (unit : Nat)
  /-- A high surrogate and a backslash were read. -/
  | highEscape (unit : Nat)

/-- Whether a unit is a high surrogate. -/
def isHigh (unit : Nat) : Bool :=
  0xD800 ≤ unit && unit ≤ 0xDBFF

/-- Whether a unit is a low surrogate. -/
def isLow (unit : Nat) : Bool :=
  0xDC00 ≤ unit && unit ≤ 0xDFFF

def failureAhead (fault : SyntaxFault) (mark : Mark) (chars : List Char) : ReadFailure :=
  ⟨.badSyntax fault, some (mark.afterBytes 1 chars)⟩

/-- The stage reached by the letter u after a backslash. -/
def openUnit (mark : Mark) (chars : List Char) : Except ReadFailure Stage := do
  let unit ← unitAhead mark chars
  if isLow unit then throw ⟨.badSyntax .loneSurrogate, some (mark.afterBytes 4 chars)⟩
  else if isHigh unit then return .highDigits 4 unit
  else return .digits 4 (Char.ofNat unit)

/-- The stage reached by the letter u after a high surrogate and a backslash. -/
def closeUnit (mark : Mark) (chars : List Char) (high : Nat) : Except ReadFailure Stage := do
  let unit ← unitAhead mark chars
  if isLow unit then
    return .digits 4 (Char.ofNat ((high - 0xD800) * 0x400 + (unit - 0xDC00) + 0x10000))
  else throw ⟨.badSyntax .loneSurrogate, some (mark.afterBytes 4 chars)⟩

/-- The rest of a string after its opening quote. The characters read so far
are kept in reverse. -/
def readFrom (stage : Stage) (mark : Mark) (done : List Char) :
    List Char → Except ReadFailure (String × Cursor)
  | [] => .error ⟨.badSyntax .endInString, some mark⟩
  | c :: rest =>
    match stage with
    | .plain =>
      if c = '"' then .ok (String.ofList done.reverse, ⟨rest, mark.after c⟩)
      else if c = '\\' then readFrom .escape (mark.after c) done rest
      else if c.toNat < 0x20 then .error ⟨.badSyntax .controlCharacter, some (mark.after c)⟩
      else readFrom .plain (mark.after c) (c :: done) rest
    | .escape =>
      if c = 'u' then
        match openUnit (mark.after c) rest with
        | .error failure => .error failure
        | .ok next => readFrom next (mark.after c) done rest
      else
        match shortEscape? c with
        | some char => readFrom .plain (mark.after c) (char :: done) rest
        | none => .error (failureAhead .invalidEscape mark (c :: rest))
    | .digits left char =>
      if left ≤ 1 then readFrom .plain (mark.after c) (char :: done) rest
      else readFrom (.digits (left - 1) char) (mark.after c) done rest
    | .highDigits left unit =>
      if left ≤ 1 then readFrom (.high unit) (mark.after c) done rest
      else readFrom (.highDigits (left - 1) unit) (mark.after c) done rest
    | .high unit =>
      if c = '\\' then readFrom (.highEscape unit) (mark.after c) done rest
      else .error (failureAhead .unfinishedEscape mark (c :: rest))
    | .highEscape unit =>
      if c = 'u' then
        match closeUnit (mark.after c) rest unit with
        | .error failure => .error failure
        | .ok next => readFrom next (mark.after c) done rest
      else .error (failureAhead .unfinishedEscape mark (c :: rest))

/-- A string, the cursor standing after its opening quote. -/
def read : Scan String := fun cursor =>
  match readFrom .plain cursor.mark [] cursor.rest with
  | .ok (text, after) => .ok text after
  | .error failure => .error failure cursor

/-- How far an unasked escape has been read. -/
inductive IgnoreStage where
  | plain
  | escape
  | digits (left : Nat)

/-- The rest of an unasked string after its opening quote. -/
def ignoreFrom (stage : IgnoreStage) (mark : Mark) : List Char → Except ReadFailure Cursor
  | [] => .error ⟨.badSyntax .endInString, some mark⟩
  | c :: rest =>
    match stage with
    | .plain =>
      if c = '"' then .ok ⟨rest, mark.after c⟩
      else if c = '\\' then ignoreFrom .escape (mark.after c) rest
      else if c.toNat < 0x20 then .error ⟨.badSyntax .controlCharacter, some mark⟩
      else ignoreFrom .plain (mark.after c) rest
    | .escape =>
      if c = 'u' then
        match unitAhead (mark.after c) rest with
        | .error failure => .error failure
        | .ok _ => ignoreFrom (.digits 4) (mark.after c) rest
      else
        match shortEscape? c with
        | some _ => ignoreFrom .plain (mark.after c) rest
        | none => .error (failureAhead .invalidEscape mark (c :: rest))
    | .digits left =>
      if left ≤ 1 then ignoreFrom .plain (mark.after c) rest
      else ignoreFrom (.digits (left - 1)) (mark.after c) rest

def ignore : Scan Unit := fun cursor =>
  match ignoreFrom .plain cursor.mark cursor.rest with
  | .ok after => .ok () after
  | .error failure => .error failure cursor

end JsonString

end ConnectorConsole
