import ConnectorConsole.Json.Numerals
import ConnectorConsole.Json.Strings

/-!
# Reading JSON

A text is read to the value it writes, or to the first breach of the grammar
with its place. Containers may be nested 127 deep. Entries of an object come out
in ascending order of keys, the last of several under one key.
-/

namespace ConnectorConsole

namespace Json

open Scan

def greatestDepth : Nat := 127

def readWord : List Char → Scan Unit
  | [] => pure ()
  | expected :: rest => do
    match ← peek with
    | none => failHere .endInValue
    | some c =>
      if c = expected then
        bump
        readWord rest
      else failAhead .expectedWord

/-- Read one of the three words that stand for a value, the cursor standing at
its first letter. -/
def readConstant (letters : List Char) (value : Json) : Scan Json := do
  bump
  readWord letters
  return value

/-- The items of a list up to its closing bracket, which is left unread. -/
def readItems {α : Type} (item : Scan α) : Nat → Bool → Scan (List α)
  | 0, _ => failHere .endInList
  | steps + 1, first => do
    match ← peekToken with
    | none => failAhead .endInList
    | some c =>
      if c = ']' then return []
      else if first then
        let value ← item
        return value :: (← readItems item steps false)
      else if c = ',' then
        bump
        match ← peekToken with
        | none => failAhead .endInValue
        | some c =>
          if c = ']' then failAhead .trailingComma
          else
            let value ← item
            return value :: (← readItems item steps false)
      else failAhead .expectedListComma

def endList : Scan Unit := do
  match ← peekToken with
  | none => failAhead .endInList
  | some c =>
    if c = ']' then bump
    else if c = ',' then
      bump
      match ← peekToken with
      | some c => if c = ']' then failAhead .trailingComma else failAhead .trailingCharacters
      | none => failAhead .trailingCharacters
    else failAhead .trailingCharacters

def readColon : Scan Unit := do
  match ← peekToken with
  | none => failAhead .endInObject
  | some c => if c = ':' then bump else failAhead .expectedColon

/-- Whether another entry follows; its opening quote is left unread. -/
def entryFollows (first : Bool) : Scan Bool := do
  match ← peekToken with
  | none => failAhead .endInObject
  | some c =>
    if c = '\x7d' then return false
    else if first then
      if c = '"' then return true else failAhead .keyNotText
    else if c = ',' then
      bump
      match ← peekToken with
      | none => failAhead .endInValue
      | some c =>
        if c = '"' then return true
        else if c = '\x7d' then failAhead .trailingComma
        else failAhead .keyNotText
    else failAhead .expectedObjectComma

/-- The key of an entry, the cursor standing at its opening quote. -/
def readKey : Scan String := do
  bump
  JsonString.read

/-- The entries of an object up to its closing brace, which is left unread. -/
def readEntries {α : Type} (value : Scan α) : Nat → Bool → Scan (List (String × α))
  | 0, _ => failHere .endInObject
  | steps + 1, first => do
    if ← entryFollows first then
      let key ← readKey
      readColon
      let held ← value
      return (key, held) :: (← readEntries value steps false)
    else return []

def endObject : Scan Unit := do
  match ← peekToken with
  | none => failAhead .endInObject
  | some c =>
    if c = '\x7d' then bump
    else if c = ',' then failAhead .trailingComma
    else failAhead .trailingCharacters

/-- Enough steps for every item or entry that the rest of the text can hold. -/
def stepsLeft : Scan Nat := do
  return (← get).rest.length + 1

/-- A value whose containers are read by `inside`, or refused when that is
absent. -/
def readValueWith (inside : Option (Scan Json)) : Scan Json := do
  match ← peekToken with
  | none => failAhead .endInValue
  | some c =>
    if c = 'n' then readConstant ['u', 'l', 'l'] .null
    else if c = 't' then readConstant ['r', 'u', 'e'] (.boolean true)
    else if c = 'f' then readConstant ['a', 'l', 's', 'e'] (.boolean false)
    else if c = '-' || isDigit c then return .number (← Numeral.read)
    else if c = '"' then
      bump
      return .text (← JsonString.read)
    else if c = '[' then
      match inside with
      | none => failAhead .tooDeep
      | some item =>
        bump
        let steps ← stepsLeft
        return .list (← closing (readItems item steps true) endList)
    else if c = '\x7b' then
      match inside with
      | none => failAhead .tooDeep
      | some value =>
        bump
        let steps ← stepsLeft
        return .object (sortedEntries (← closing (readEntries value steps true) endObject))
    else failAhead .expectedValue

/-- A value in which containers are nested at most `depth` deep. -/
def readValue : Nat → Scan Json
  | 0 => readValueWith none
  | depth + 1 => readValueWith (some (readValue depth))

def endText : Scan Unit := do
  match ← peekToken with
  | none => pure ()
  | some _ => failAhead .trailingCharacters

def scanText {α : Type} (scan : Scan α) (text : String) : Except ReadFailure α :=
  match (do let value ← scan; endText; return value : Scan α) (Cursor.ofText text) with
  | .ok value _ => .ok value
  | .error failure _ => .error failure

/-- The value that a text writes, with containers nested at most `depth` deep. -/
def readWithin (depth : Nat) (text : String) : Except ReadFailure Json :=
  scanText (readValue depth) text

def read (text : String) : Except ReadFailure Json :=
  readWithin greatestDepth text

def read? (text : String) : Option Json :=
  (read text).toOption

/-- The containers that are open around a value nobody asks for. -/
inductive Open where
  | list
  | object
deriving DecidableEq

/-- Read on after a value nobody asks for until the next value begins. The
answer is the stack of containers open there, or nothing when all are closed. -/
def ignoreTail : Nat → Bool → List Open → Scan (Option (List Open))
  | 0, _, _ => failHere .endInValue
  | _, _, [] => return none
  | steps + 1, afterValue, container :: outer => do
    match ← peekToken with
    | none =>
      failAhead (match container with
        | .list => .endInList
        | .object => .endInObject)
    | some c =>
      if c = (match container with | .list => ']' | .object => '\x7d') then
        bump
        ignoreTail steps true outer
      else if afterValue && c != ',' then
        failAhead (match container with
          | .list => .expectedListComma
          | .object => .expectedObjectComma)
      else
        if afterValue then bump
        match container with
        | .list => return some (container :: outer)
        | .object =>
          match ← peekToken with
          | none => failAhead .endInObject
          | some c => if c = '"' then bump else failAhead .keyNotText
          JsonString.ignore
          readColon
          return some (container :: outer)

/-- Move past values nobody asks for, inside the given open containers. -/
def ignoreValues : Nat → List Open → Scan Unit
  | 0, _ => failHere .endInValue
  | steps + 1, containers => do
    let goOn (afterValue : Bool) (containers : List Open) : Scan Unit := do
      match ← ignoreTail (steps + 1) afterValue containers with
      | none => pure ()
      | some containers => ignoreValues steps containers
    match ← peekToken with
    | none => failAhead .endInValue
    | some c =>
      if c = '[' then
        bump
        goOn false (.list :: containers)
      else if c = '\x7b' then
        bump
        goOn false (.object :: containers)
      else
        if c = 'n' then
          bump
          readWord ['u', 'l', 'l']
        else if c = 't' then
          bump
          readWord ['r', 'u', 'e']
        else if c = 'f' then
          bump
          readWord ['a', 'l', 's', 'e']
        else if c = '-' || isDigit c then Numeral.ignore
        else if c = '"' then
          bump
          JsonString.ignore
        else failAhead .expectedValue
        goOn true containers

/-- Move past a value nobody asks for. It may be nested to any depth. -/
def ignoreValue : Scan Unit := do
  let steps ← stepsLeft
  ignoreValues steps []

end Json

end ConnectorConsole
