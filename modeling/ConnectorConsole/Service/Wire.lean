import ConnectorConsole.Number.Reading
import ConnectorConsole.Service.Exchange

/-!
# Requests and replies on the wire

A connection carries one request and one reply, both as octets: a head of lines,
an empty line, and a body. The body of a reply comes in chunks, has a stated
length, or lasts until the connection is closed.
-/

namespace ConnectorConsole

namespace Wire

def lineEnd : String := "\r\n"

/-- The host that an address names, and the port if it is not the usual one. -/
def authority (url : Url) : String :=
  url.host ++ Url.partText ":" (url.port.map toString)

/-- The name or number of the machine that an address names, without the brackets
that stand around a number of colons. -/
def machine (url : Url) : String :=
  String.ofList (url.host.toList.filter fun c => c != '[' && c != ']')

def portOf (url : Url) : Nat :=
  url.port.getD (Url.defaultPort url.secure)

/-- The letters that write six bits each. -/
def sextetLetters : List Char :=
  "ABCDEFGHIJKLMNOPQRSTUVWXYZabcdefghijklmnopqrstuvwxyz0123456789+/".toList

/-- The letter for the six bits of a number that stand above `shift` others. -/
def sextet (number shift : Nat) : Char :=
  sextetLetters.getD ((number >>> shift) % 64) '='

/-- Octets written in letters, four for every three. -/
def letters : List UInt8 → List Char
  | first :: second :: third :: rest =>
    let number := (first.toNat * 256 + second.toNat) * 256 + third.toNat
    sextet number 18 :: sextet number 12 :: sextet number 6 :: sextet number 0 :: letters rest
  | [first, second] =>
    let number := (first.toNat * 256 + second.toNat) * 4
    [sextet number 12, sextet number 6, sextet number 0, '=']
  | [first] =>
    let number := first.toNat * 16
    [sextet number 6, sextet number 0, '=', '=']
  | [] => []

def userLines (url : Url) : List String :=
  if url.username = "" ∧ url.password = "" then []
  else
    let name := Percent.decodeBytes (Utf8.encode url.username)
    let password := Percent.decodeBytes (Utf8.encode url.password)
    ["authorization: Basic " ++ String.ofList (letters (name ++ 0x3A :: password))]

def bodyLines (body : Option String) : List String :=
  match body with
  | none => []
  | some text =>
    ["content-type: " ++ Request.jsonType, "content-length: " ++ toString text.utf8ByteSize]

/-- A request as text. The connection is not used again. -/
def requestText (request : Request) : String :=
  let head :=
    [request.method.name ++ " " ++ request.url.target ++ " HTTP/1.1",
     "host: " ++ authority request.url,
     "accept: " ++ Request.jsonType] ++
    userLines request.url ++ bodyLines request.body ++ ["connection: close", ""]
  String.join (head.map fun line => line ++ lineEnd) ++ request.body.getD ""

def cutLine : List UInt8 → Option (List UInt8 × List UInt8)
  | [] => none
  | octet :: rest =>
    if octet = 0x0A then some ([], rest)
    else if octet = 0x0D ∧ rest.head? = some 0x0A then some ([], rest.tail)
    else (cutLine rest).map fun (line, after) => (octet :: line, after)

theorem length_lt_of_cutLine {octets line after : List UInt8}
    (cut : cutLine octets = some (line, after)) : after.length < octets.length := by
  induction octets generalizing line with
  | nil => simp [cutLine] at cut
  | cons octet rest ih =>
    simp only [cutLine] at cut
    split at cut
    · simp only [Option.some.injEq, Prod.mk.injEq] at cut
      simp [← cut.2]
    · split at cut
      · simp only [Option.some.injEq, Prod.mk.injEq] at cut
        simp only [← cut.2, List.length_tail, List.length_cons]
        omega
      · obtain ⟨⟨inner, kept⟩, found, same⟩ := Option.map_eq_some_iff.mp cut
        simp only [Prod.mk.injEq] at same
        have shorter := ih (same.2 ▸ found)
        simp only [List.length_cons]
        omega

/-- The lines up to an empty one, and what follows it. -/
def cutHead (octets : List UInt8) : Option (List String × List UInt8) :=
  match _ : cutLine octets with
  | none => none
  | some ([], after) => some ([], after)
  | some (line, after) =>
    (cutHead after).map fun (lines, body) => (Utf8.repair line :: lines, body)
termination_by octets.length
decreasing_by exact length_lt_of_cutLine ‹_›

/-- The number that hexadecimal digits at the start of a line write. -/
def chunkSize (line : List UInt8) : Option Nat :=
  match (line.takeWhile fun octet => (Percent.hexByte? octet).isSome).filterMap Percent.hexByte? with
  | [] => none
  | digits => some (digits.foldl (fun number digit => number * 16 + digit) 0)

/-- A body that comes in chunks, the last of which is empty. -/
def joinChunks (octets : List UInt8) : Option (List UInt8) :=
  match _ : cutLine octets with
  | none => none
  | some (line, after) =>
    match chunkSize line with
    | none => none
    | some 0 => some []
    | some size =>
      if size ≤ after.length then
        (joinChunks (after.drop (size + 2))).map fun rest => after.take size ++ rest
      else none
termination_by octets.length
decreasing_by
  have shorter := length_lt_of_cutLine ‹cutLine octets = _›
  simp only [List.length_drop]
  omega

def field? (lines : List String) (name : String) : Option String :=
  lines.findSome? fun line =>
    match Text.cutAt ':' line with
    | some (key, value) => if Text.lowerAscii key = name then some (Text.trim value) else none
    | none => none

def statusOf (line : String) : Option Nat :=
  match Text.words line with
  | protocol :: status :: _ => if protocol.startsWith "HTTP/1." then readNat? status else none
  | _ => none

def bodyOf (lines : List String) (octets : List UInt8) : Option (List UInt8) :=
  if (field? lines "transfer-encoding").map Text.lowerAscii = some "chunked" then
    joinChunks octets
  else
    match (field? lines "content-length").bind readNat? with
    | some size => if size ≤ octets.length then some (octets.take size) else none
    | none => some octets

def readReply? (octets : List UInt8) : Option WireReply := do
  let (lines, rest) ← cutHead octets
  let (first, fields) ← match lines with
    | [] => none
    | first :: fields => some (first, fields)
  let status ← statusOf first
  let body ← bodyOf fields rest
  return ⟨status, field? fields "content-type", body⟩

/-- What comes of a request to which these octets are the answer. -/
def delivery (octets : List UInt8) : Delivery :=
  match readReply? octets with
  | some reply => .reply reply
  | none => .broken

end Wire

end ConnectorConsole
