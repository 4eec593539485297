import ConnectorConsole.Number.Reading
import ConnectorConsole.Text.Blank
import ConnectorConsole.Text.Lowercase
import ConnectorConsole.Web.Percent
import ConnectorConsole.Web.Punycode

/-!
# Hosts

The host of an address is a name or an IP address. A name is percent-decoded,
brought to lower case and written in ASCII; one whose last label is a number is
read as an IPv4 address, which may be short and may use octal or hexadecimal
digits. An IPv6 address stands in brackets.
-/

namespace ConnectorConsole

/-- Why a text is not the address of a service. -/
inductive UrlProblem where
  | emptyHost
  | badInternationalName
  | badPort
  | badIpv4
  | badIpv6
  | badNameCharacter
  | relative
  | notWeb
deriving DecidableEq, Repr

def UrlProblem.message : UrlProblem → String
  | .emptyHost => "empty host"
  | .badInternationalName => "invalid international domain name"
  | .badPort => "invalid port number"
  | .badIpv4 => "invalid IPv4 address"
  | .badIpv6 => "invalid IPv6 address"
  | .badNameCharacter => "invalid domain character"
  | .relative => "relative URL without a base"
  | .notWeb => "expected an http(s) URL"

namespace Host

/-- The value of digits in a base, if all of them belong to it. -/
def readBase? (base : Nat) (digits : List Char) : Option Nat :=
  digits.foldlM (fun value c => do
    let digit ← Percent.hexValue? c
    if digit < base then return base * value + digit else none) 0

/-- A number in an IPv4 address: decimal, octal after a zero, or hexadecimal
after a zero and an x. -/
def ipv4Number? : List Char → Option Nat
  | [] => none
  | '0' :: 'x' :: digits => readBase? 16 digits
  | '0' :: 'X' :: digits => readBase? 16 digits
  | '0' :: digit :: digits => readBase? 8 (digit :: digits)
  | digits => readBase? 10 digits

/-- The labels of a name, without the empty one after a point at the end. -/
def labels (name : List Char) : List (List Char) :=
  match (Text.splitOn (· = '.') name).reverse with
  | [] :: second :: rest => (second :: rest).reverse
  | reversed => reversed.reverse

/-- Whether a name is to be read as an IPv4 address. -/
def endsInNumber (name : List Char) : Bool :=
  match (labels name).getLast? with
  | some last => (!last.isEmpty && last.all isDigit) || (ipv4Number? last).isSome
  | none => false

/-- The value of an IPv4 address. Each number stands for one byte, except the
last, which stands for all bytes that are left. -/
def ipv4Value? (name : List Char) : Option Nat := do
  let numbers ← (labels name).mapM ipv4Number?
  if 4 < numbers.length then none
  let last ← numbers.getLast?
  let leading := numbers.dropLast
  if leading.any fun number => 255 < number then none
  let room := 1 <<< (8 * (4 - leading.length))
  if room ≤ last then none
  return leading.foldl (fun value number => 256 * value + number) 0 * room + last

/-- The four bytes of an IPv4 address with points between them. -/
def ipv4Text (value : Nat) : String :=
  Text.join "." ([3, 2, 1, 0].map fun place => toString ((value >>> (8 * place)) % 256))

def ipv6Piece? (piece : List Char) : Option Nat :=
  if piece.isEmpty || 4 < piece.length then none else readBase? 16 piece

/-- A byte in the IPv4 part of an IPv6 address, without leading zeros. -/
def plainByte? (digits : List Char) : Option Nat :=
  match digits with
  | ['0'] => some 0
  | '0' :: _ => none
  | [] => none
  | digits => if digits.all isDigit then
      some (decimalValue digits) |>.filter (· ≤ 255) else none

/-- The pieces between colons. The last piece of an address may be an IPv4
address that stands for two. -/
def ipv6Pieces? (last : Bool) (chars : List Char) : Option (List Nat) := do
  if chars.isEmpty then return []
  let texts := Text.splitOn (· = ':') chars
  let final := texts.getLastD []
  if last && final.contains '.' then
    let leading ← texts.dropLast.mapM ipv6Piece?
    match ← (Text.splitOn (· = '.') final).mapM plainByte? with
    | [a, b, c, d] => return leading ++ [256 * a + b, 256 * c + d]
    | _ => none
  else texts.mapM ipv6Piece?

/-- The characters before and after the first pair of colons. -/
def cutColons : List Char → Option (List Char × List Char)
  | ':' :: ':' :: rest => some ([], rest)
  | [] => none
  | c :: rest => (cutColons rest).map fun (before, after) => (c :: before, after)

/-- The eight pieces of an IPv6 address. A pair of colons stands for at least
one piece of zero. -/
def ipv6? (chars : List Char) : Option (List Nat) := do
  match cutColons chars with
  | none =>
    let pieces ← ipv6Pieces? true chars
    if pieces.length = 8 then return pieces else none
  | some (before, after) =>
    let front ← ipv6Pieces? false before
    let back ← ipv6Pieces? true after
    let given := front.length + back.length
    if given ≤ 7 then return front ++ List.replicate (8 - given) 0 ++ back else none

/-- The length of the run of zeros at the front. -/
def zeroRun (pieces : List Nat) : Nat :=
  (pieces.takeWhile (· = 0)).length

/-- The place of the first of the longest runs of zeros. -/
def longestZeros (pieces : List Nat) : Nat × Nat :=
  (List.range pieces.length).foldl (fun best place =>
    let run := zeroRun (pieces.drop place)
    if best.2 < run then (place, run) else best) (0, 0)

def hexText (piece : Nat) : String :=
  String.ofList (Nat.toDigits 16 piece)

/-- An IPv6 address as text. The first longest run of two zeros or more is left
out. -/
def ipv6Text (pieces : List Nat) : String :=
  let (place, run) := longestZeros pieces
  let written (part : List Nat) := Text.join ":" (part.map hexText)
  if run < 2 then written pieces
  else written (pieces.take place) ++ "::" ++ written (pieces.drop (place + run))

def isForbidden (c : Char) : Bool :=
  c.toNat ≤ 0x20 || c.toNat = 0x7F ||
    "%#/:<>?@[\\]^`\x7b|\x7d".toList.contains c

/-- A character of a name in its plain form: small letters, ASCII letters for
wide ones, points for ideographic full stops, nothing for invisible
characters. -/
def plainChars (c : Char) : List Char :=
  let code := c.toNat
  if code < 0x80 then [c.toLower]
  else if code = 0xAD || code = 0x34F || code = 0x200B || code = 0x2060 || code = 0xFEFF ||
    (0xFE00 ≤ code && code ≤ 0xFE0F) then []
  else if code = 0x3002 || code = 0xFF61 then ['.']
  else if 0xFF01 ≤ code && code ≤ 0xFF5E then [(Char.ofNat (code - 0xFEE0)).toLower]
  else [Text.lowerChar c]

/-- Whether a label that claims to be encoded stands for characters beyond
ASCII. -/
def encodedWell (label : List Char) : Bool :=
  match label with
  | 'x' :: 'n' :: '-' :: '-' :: written =>
    match Punycode.decode? written with
    | some decoded => decoded.any fun c => !Punycode.isBasic c
    | none => false
  | _ => true

def asciiLabel (label : List Char) : List Char :=
  if label.all Punycode.isBasic then label else "xn--".toList ++ Punycode.encode label

def asciiName (bytes : List UInt8) : Except UrlProblem (List Char) :=
  match Utf8.decode? bytes with
  | none => .error .badInternationalName
  | some text =>
    let labels := Text.splitOn (· = '.') (text.toList.flatMap plainChars)
    if labels.any (fun label => label.any isForbidden || !encodedWell label) then
      .error .badInternationalName
    else .ok ((Text.join "." ((labels.map asciiLabel).map String.ofList)).toList)

def readBracketed (chars : List Char) : Except UrlProblem String :=
  match chars.reverse with
  | ']' :: reversed =>
    match ipv6? reversed.reverse with
    | some pieces => .ok ("[" ++ ipv6Text pieces ++ "]")
    | none => .error .badIpv6
  | _ => .error .badIpv6

/-- The host that a text in a web address names, in its normal form. -/
def read (chars : List Char) : Except UrlProblem String :=
  match chars with
  | '[' :: rest => readBracketed rest
  | chars => do
    let name ← asciiName (Percent.decodeBytes (Utf8.encode (String.ofList chars)))
    if name.isEmpty then throw .emptyHost
    if endsInNumber name then
      match ipv4Value? name with
      | some value => return ipv4Text value
      | none => throw .badIpv4
    else return String.ofList name

/-- Whether the text of a host is admitted in an address of another kind. -/
def checkOpaque (chars : List Char) : Except UrlProblem Unit :=
  match chars with
  | '[' :: rest => (readBracketed rest).map fun _ => ()
  | chars =>
    if chars.any (fun c => "\x00\t\n\r #/:<>?@[\\]^|".toList.contains c) then
      .error .badNameCharacter
    else .ok ()

end Host

end ConnectorConsole
