import ConnectorConsole.Web.FormEncoding
import ConnectorConsole.Web.Host

/-!
# Addresses of services

A service is addressed by a web address, which is read leniently and kept in its
normal form: scheme and host in lower case, the default port left out, dot
segments resolved, and characters that an address cannot hold percent-encoded.
The path is a list of segments; the root path is one empty segment.
-/

namespace ConnectorConsole

/-- A web address in normal form. -/
structure Url where
  secure : Bool
  username : String
  password : String
  host : String
  port : Option Nat
  path : List String
  query : Option String
  fragment : Option String
deriving DecidableEq, Repr

namespace Url

/-- What kind of address a scheme begins. -/
inductive Kind where
  | web (secure : Bool)
  /-- Another scheme whose addresses have the form of web addresses. -/
  | similar
  | file
  | other
deriving DecidableEq, Repr

def Kind.ofScheme (scheme : String) : Kind :=
  if scheme = "http" then .web false
  else if scheme = "https" then .web true
  else if ["ws", "wss", "ftp"].contains scheme then .similar
  else if scheme = "file" then .file
  else .other

def isLetter (c : Char) : Bool :=
  ('a' ≤ c && c ≤ 'z') || ('A' ≤ c && c ≤ 'Z')

def isSchemeChar (c : Char) : Bool :=
  isLetter c || isDigit c || c = '+' || c = '-' || c = '.'

/-- The scheme in front of an address, in lower case, and what follows its
colon. -/
def cutScheme (chars : List Char) : Option (String × List Char) :=
  match Text.cut ':' chars with
  | none => none
  | some (scheme, rest) =>
    if scheme.head?.any isLetter && scheme.all isSchemeChar then
      some (String.ofList (scheme.map Char.toLower), rest)
    else none

/-- Whether a character is a slash; in web addresses a backslash is one too. -/
def isSlash (c : Char) : Bool :=
  c = '/' || c = '\\'

/-- Whether a character ends the part of an address that names the host. -/
def endsAuthority (web : Bool) (c : Char) : Bool :=
  c = '/' || c = '?' || c = '#' || (web && c = '\\')

/-- Control characters and characters beyond ASCII are encoded everywhere. -/
def alwaysEncoded (c : Char) : Bool :=
  c.toNat < 0x20 || 0x7F ≤ c.toNat

def fragmentEscapes (c : Char) : Bool :=
  alwaysEncoded c || " \"<>`".toList.contains c

def pathEscapes (c : Char) : Bool :=
  fragmentEscapes c || "#?\x7b\x7d".toList.contains c

/-- The characters encoded in the name and the password of a user. -/
def userEscapes (c : Char) : Bool :=
  pathEscapes c || "/:;=@[\\]^|".toList.contains c

/-- The characters encoded in a segment that is appended to a path. -/
def segmentEscapes (c : Char) : Bool :=
  pathEscapes c || "/%\\".toList.contains c

def queryEscapes (c : Char) : Bool :=
  alwaysEncoded c || " \"#<>'".toList.contains c

/-- The characters before and after the last at sign. -/
def cutLastAt (chars : List Char) : Option (List Char × List Char) :=
  (Text.cut '@' chars.reverse).map fun (after, before) => (before.reverse, after.reverse)

/-- The part of an address between the scheme and the path. -/
structure Authority where
  username : String
  password : String
  host : List Char
  port : Option Nat

/-- The name and the password of a user, with the first colon between them. -/
def readUser (chars : List Char) : String × String :=
  let (name, password) := (Text.cut ':' chars).getD (chars, [])
  (Percent.encode userEscapes (String.ofList name),
   Percent.encode userEscapes (String.ofList password))

/-- The host and what follows it. A colon inside brackets belongs to the host. -/
def cutHost : Bool → List Char → List Char × List Char
  | _, [] => ([], [])
  | inside, c :: rest =>
    if c = ':' && !inside then ([], c :: rest)
    else
      let (host, after) := cutHost (if c = '[' then true else if c = ']' then false else inside) rest
      (c :: host, after)

/-- The number of a port, which must fit 16 bits. Digits may be missing. -/
def readPort (chars : List Char) : Except UrlProblem (Option Nat) :=
  match chars with
  | [] => .ok none
  | chars =>
    if !chars.all isDigit || 65535 < decimalValue chars then .error .badPort
    else .ok (some (decimalValue chars))

/-- Read the part of an address between the scheme and the path. -/
def readAuthority (web : Bool) (chars : List Char) : Except UrlProblem Authority := do
  let (user, place) := match cutLastAt chars with
    | some (user, place) => (some user, place)
    | none => (none, chars)
  let (username, password) := readUser (user.getD [])
  let (host, after) := cutHost false place
  if web && host.isEmpty then throw .emptyHost
  if !web then Host.checkOpaque host
  if host.isEmpty && (!after.isEmpty || username ≠ "" || password ≠ "") then throw .emptyHost
  let normal ← if web then String.toList <$> Host.read host else pure host
  let port ← readPort (after.drop 1)
  return ⟨username, password, normal, port⟩

/-- The ways to write the segment that stands for the folder itself. -/
def isSingleDot (segment : String) : Bool :=
  [".", "%2e"].contains (Text.lowerAscii segment)

/-- The ways to write the segment that stands for the folder above. -/
def isDoubleDot (segment : String) : Bool :=
  ["..", "%2e.", ".%2e", "%2e%2e"].contains (Text.lowerAscii segment)

/-- Whether a segment names a drive. Such a segment is not left by going up. -/
def isDrive (segment : String) : Bool :=
  match segment.toList with
  | [letter, mark] => isLetter letter && (mark = ':' || mark = '|')
  | _ => false

def leave (folders : List String) : List String :=
  match folders.getLast? with
  | some last => if isDrive last then folders else folders.dropLast
  | none => []

def enter (folders : List String) (segment : String) : List String :=
  if isDoubleDot segment then leave folders
  else if isSingleDot segment then folders
  else folders ++ [segment]

def finish (folders : List String) (segment : String) : List String :=
  if isDoubleDot segment then leave folders ++ [""]
  else if isSingleDot segment then folders ++ [""]
  else folders ++ [segment]

/-- The path that consists of the given segments after the given folders. -/
def resolve (folders : List String) : List String → List String
  | [] => folders ++ [""]
  | [last] => finish folders last
  | segment :: rest => resolve (enter folders segment) rest

def readPath (chars : List Char) : List String :=
  let inside := match chars with
    | c :: rest => if isSlash c then rest else chars
    | [] => []
  resolve [] ((Text.splitOn isSlash inside).map fun segment =>
    Percent.encode pathEscapes (String.ofList segment))

def cutPath (chars : List Char) : List Char × Option (List Char) × Option (List Char) :=
  let (front, fragment) := match Text.cut '#' chars with
    | some (front, fragment) => (front, some fragment)
    | none => (chars, none)
  match Text.cut '?' front with
  | some (path, query) => (path, some query, fragment)
  | none => (front, none, fragment)

def defaultPort (secure : Bool) : Nat :=
  if secure then 443 else 80

def readWeb (secure : Bool) (chars : List Char) : Except UrlProblem Url := do
  let inside := chars.dropWhile isSlash
  let authority ← readAuthority true (inside.takeWhile fun c => !endsAuthority true c)
  let (path, query, fragment) := cutPath (inside.dropWhile fun c => !endsAuthority true c)
  return {
    secure
    username := authority.username
    password := authority.password
    host := String.ofList authority.host
    port := authority.port.filter (· ≠ defaultPort secure)
    path := readPath path
    query := query.map fun chars => Percent.encode queryEscapes (String.ofList chars)
    fragment := fragment.map fun chars => Percent.encode fragmentEscapes (String.ofList chars) }

def checkOther (kind : Kind) (chars : List Char) : Except UrlProblem Unit :=
  match kind, chars with
  | .file, first :: second :: rest =>
    if isSlash first && isSlash second then
      let host := rest.takeWhile fun c => !endsAuthority true c
      if host.isEmpty || isDrive (String.ofList host) then .ok ()
      else (Host.read host).map fun _ => ()
    else .ok ()
  | .other, '/' :: '/' :: rest =>
    (readAuthority false (rest.takeWhile fun c => !endsAuthority false c)).map fun _ => ()
  | .similar, chars =>
    (readAuthority true
      ((chars.dropWhile isSlash).takeWhile fun c => !endsAuthority true c)).map fun _ => ()
  | _, _ => .ok ()

/-- Whether a character is dropped at either end of an address. -/
def isPadding (c : Char) : Bool :=
  c.toNat ≤ 0x20

/-- Whether a character is dropped anywhere in an address. -/
def isLineControl (c : Char) : Bool :=
  c = '\t' || c = '\n' || c = '\r'

/-- The address that a text writes. Only web addresses are admitted. -/
def read (text : String) : Except UrlProblem Url := do
  let inner := ((text.toList.dropWhile isPadding).reverse.dropWhile isPadding).reverse
  match cutScheme (inner.filter fun c => !isLineControl c) with
  | none => throw .relative
  | some (scheme, rest) =>
    match Kind.ofScheme scheme with
    | .web secure => readWeb secure rest
    | kind =>
      checkOther kind rest
      throw .notWeb

def userText (url : Url) : String :=
  if url.username = "" ∧ url.password = "" then ""
  else if url.password = "" then url.username ++ "@"
  else url.username ++ ":" ++ url.password ++ "@"

def pathText (url : Url) : String :=
  "/" ++ Text.join "/" url.path

/-- An optional part of an address after its mark. -/
def partText (mark : String) (part : Option String) : String :=
  match part with
  | some text => mark ++ text
  | none => ""

/-- The path and the query, which is what a request names. -/
def target (url : Url) : String :=
  url.pathText ++ partText "?" url.query

def text (url : Url) : String :=
  (if url.secure then "https://" else "http://") ++ url.userText ++ url.host ++
    partText ":" (url.port.map toString) ++ url.target ++ partText "#" url.fragment

/-- The folders of a base path: all segments without one empty one at the end.
The root has no folders. -/
def folders (path : List String) : List String :=
  let kept := match path.getLast? with
    | some "" => path.dropLast
    | _ => path
  if kept = [""] then [] else kept

/-- A path with one segment appended. Dot segments are passed over; line
controls inside a segment are dropped before it is looked at. -/
def append (path : List String) (segment : String) : List String :=
  if segment = "." ∨ segment = ".." then path
  else
    let plain := String.ofList (segment.toList.filter fun c => !isLineControl c)
    finish (if path = [""] then [] else path) (Percent.encode segmentEscapes plain)

def endpoint (base : Url) (segments : List String) : Url :=
  let start := match folders base.path with
    | [] => [""]
    | kept => kept
  { base with path := segments.foldl append start }

def withPairs (url : Url) (pairs : List (String × String)) : Url :=
  match pairs with
  | [] => url
  | pairs =>
    let added := FormEncoding.encode pairs
    let query := match url.query with
      | none => added
      | some "" => added
      | some given => given ++ "&" ++ added
    { url with query := some query }

/-- The address without the name and the password of a user, which are sent
apart from it. A name that cannot be decoded stays. -/
def withoutUser (url : Url) : Url :=
  if (Utf8.decode? (Percent.decodeBytes (Utf8.encode url.username))).isSome then
    { url with username := "", password := "" }
  else url

end Url

end ConnectorConsole
