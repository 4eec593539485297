import ConnectorConsole.Json.Problem

/-!
# Reading position

A cursor is the text still to be read together with the place it starts at.
Lines count from one; a column is the number of bytes read on the line. A scan
moves the cursor and may fail; the place of a failure may be filled in later by
the container that the failure arose in.
-/

namespace ConnectorConsole

/-- A place in a text. -/
structure Mark where
  line : Nat
  column : Nat
deriving DecidableEq, Repr

namespace Mark

def start : Mark := ⟨1, 0⟩

def after (mark : Mark) (c : Char) : Mark :=
  if c = '\n' then ⟨mark.line + 1, 0⟩ else ⟨mark.line, mark.column + c.utf8Size⟩

def afterAll (mark : Mark) (chars : List Char) : Mark :=
  chars.foldl after mark

/-- The place a number of bytes into the characters of a list. -/
def afterBytes (mark : Mark) (count : Nat) : List Char → Mark
  | [] => mark
  | c :: rest =>
    if count = 0 then mark
    else if c.utf8Size ≤ count then (mark.after c).afterBytes (count - c.utf8Size) rest
    else ⟨mark.line, mark.column + count⟩

end Mark

/-- The text still to be read and its place. -/
structure Cursor where
  rest : List Char
  mark : Mark

namespace Cursor

def ofText (text : String) : Cursor :=
  ⟨text.toList, Mark.start⟩

def ahead (cursor : Cursor) : Mark :=
  cursor.mark.afterBytes 1 cursor.rest

/-- The characters that JSON allows between tokens. -/
def isFiller (c : Char) : Bool :=
  c = ' ' || c = '\n' || c = '\t' || c = '\r'

def next (cursor : Cursor) : Cursor :=
  match cursor.rest with
  | [] => cursor
  | c :: rest => ⟨rest, cursor.mark.after c⟩

/-- The cursor moved past the longest run of characters that satisfy a test. -/
def skip (test : Char → Bool) (cursor : Cursor) : Cursor :=
  ⟨cursor.rest.dropWhile test, cursor.mark.afterAll (cursor.rest.takeWhile test)⟩

end Cursor

/-- A problem with the place where it was met, as far as that is known. -/
structure ReadFailure where
  problem : JsonProblem
  mark : Option Mark

/-- The failure at a place, unless it has one already. -/
def ReadFailure.settled (mark : Mark) (failure : ReadFailure) : ReadFailure :=
  { failure with mark := some (failure.mark.getD mark) }

def ReadFailure.message (failure : ReadFailure) : String :=
  match failure.mark with
  | none => failure.problem.message
  | some mark => s!"{failure.problem.message} at line {mark.line} column {mark.column}"

/-- A computation that reads from a cursor. -/
abbrev Scan (α : Type) := EStateM ReadFailure Cursor α

namespace Scan

def fail {α : Type} (problem : JsonProblem) : Scan α :=
  throw ⟨problem, none⟩

def failHere {α : Type} (fault : SyntaxFault) : Scan α := do
  throw ⟨.badSyntax fault, some (← get).mark⟩

def failAhead {α : Type} (fault : SyntaxFault) : Scan α := do
  throw ⟨.badSyntax fault, some (← get).ahead⟩

def peek : Scan (Option Char) := do
  return (← get).rest.head?

def bump : Scan Unit :=
  modify Cursor.next

/-- The next character after filler, left unread. -/
def peekToken : Scan (Option Char) := do
  modify (Cursor.skip Cursor.isFiller)
  peek

def takeWhile (test : Char → Bool) : Scan (List Char) := do
  let cursor ← get
  set (cursor.skip test)
  return cursor.rest.takeWhile test

/-- Give a failure without a place the place where the cursor stands. -/
def settle {α : Type} (body : Scan α) : Scan α := fun cursor =>
  match body cursor with
  | .ok value after => .ok value after
  | .error failure after => .error (failure.settled after.mark) after

/-- Read the inside of a container and then its end. The end is read even when
the inside failed, for it decides the place of a failure without one. -/
def closing {α : Type} (inside : Scan α) (ending : Scan Unit) : Scan α := fun cursor =>
  match inside cursor with
  | .ok value after =>
    match ending after with
    | .ok _ last => .ok value last
    | .error failure last => .error failure last
  | .error failure after =>
    match ending after with
    | .ok _ last => .error (failure.settled last.mark) last
    | .error _ last => .error (failure.settled last.mark) last

end Scan

end ConnectorConsole
