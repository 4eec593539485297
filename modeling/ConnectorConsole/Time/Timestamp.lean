import ConnectorConsole.Number.Reading
import ConnectorConsole.Text.Blank
import ConnectorConsole.Time.Calendar

/-!
# Timestamps

Two written forms of an instant are understood. The internet form has digits in
fixed places and states its offset from universal time. The local form states no
offset and is taken for universal time; its numbers may lack leading zeros and
have blanks in front, and its year may have a sign. A minute may have a sixtieth
second, which stays a second of its own.
-/

namespace ConnectorConsole

/-- An instant of universal time. -/
structure Timestamp where
  /-- The number of the calendar day. -/
  day : Int
  /-- The second of the day. -/
  second : Nat
  /-- Whether the instant lies in the leap second that follows `second`. -/
  leap : Bool
  nanosecond : Nat
deriving DecidableEq, Repr

/-- The fields of a written instant, before its offset is applied. -/
structure ClockReading where
  date : CalendarDate
  hour : Nat
  minute : Nat
  second : Nat
  nanosecond : Nat
deriving DecidableEq, Repr

namespace ClockReading

/-- The years that a calendar date may have. -/
def knownYear (year : Int) : Bool :=
  -262143 ≤ year && year ≤ 262142

def valid (clock : ClockReading) : Bool :=
  knownYear clock.date.year && clock.date.exists? && clock.hour ≤ 23 && clock.minute ≤ 59 &&
    clock.second ≤ 60

/-- The instant at which a clock with the given offset in minutes shows the
fields. -/
def toTimestamp (clock : ClockReading) (offset : Int) : Timestamp :=
  let leap := clock.second = 60
  let shown : Int :=
    3600 * clock.hour + 60 * clock.minute + (if leap then 59 else clock.second : Nat)
  let total := shown - 60 * offset
  { day := clock.date.dayNumber + total / 86400
    second := (total % 86400).toNat
    leap
    nanosecond := clock.nanosecond }

end ClockReading

namespace Timestamp

abbrev Reading := StateT (List Char) Option

namespace Reading

def charWhere (test : Char → Bool) : Reading Char := do
  match ← get with
  | c :: rest =>
    if test c then
      set rest
      return c
    else failure
  | [] => failure

def char (expected : Char) : Reading Unit :=
  discard (charWhere (· = expected))

/-- Read between `least` and `most` digits, as many as there are. -/
def digits (least most : Nat) : Reading (List Char) := do
  let chars ← get
  let taken := (chars.take most).takeWhile isDigit
  if taken.length < least then failure
  set (chars.drop taken.length)
  return taken

def number (least most : Nat) : Reading Nat :=
  return decimalValue (← digits least most)

def blanks : Reading Unit :=
  modify Text.trimLeft

/-- Read a point and a fraction of a second, if there is one. Digits beyond the
ninth are passed over. -/
def fraction : Reading Nat := do
  match ← get with
  | '.' :: rest =>
    set rest
    let taken ← digits 1 9
    modify (List.dropWhile isDigit)
    return decimalValue (taken ++ List.replicate (9 - taken.length) '0')
  | _ => return 0

/-- Read an offset from universal time in minutes. -/
def offset : Reading Int := do
  let sign ← charWhere fun c => ['Z', 'z', '+', '-', '\u2212'].contains c
  if sign = 'Z' || sign = 'z' then return 0
  let hours ← number 2 2
  char ':'
  let minutes ← number 2 2
  if 23 < hours || 59 < minutes then failure
  let total : Int := (60 * hours + minutes : Nat)
  return if sign = '+' then total else -total

/-- Read the internet form: the fields and the offset. -/
def internet : Reading (ClockReading × Int) := do
  let year ← number 4 4
  char '-'
  let month ← number 2 2
  char '-'
  let day ← number 2 2
  discard (charWhere fun c => ['T', 't', ' '].contains c)
  let hour ← number 2 2
  char ':'
  let minute ← number 2 2
  char ':'
  let second ← number 2 2
  let nanosecond ← fraction
  let offset ← offset
  return (⟨⟨year, month, day⟩, hour, minute, second, nanosecond⟩, offset)

/-- Read a year. With a sign in front it may have any number of digits. -/
def signedYear : Reading Int := do
  blanks
  match ← get with
  | '-' :: rest =>
    set rest
    return -(← number 1 rest.length : Nat)
  | '+' :: rest =>
    set rest
    return (← number 1 rest.length : Nat)
  | _ => return (← number 1 4 : Nat)

/-- Read a number of one or two digits with blanks in front. -/
def short : Reading Nat := do
  blanks
  number 1 2

/-- Read the local form with the given separator of date and time. -/
def localForm (separator : Reading Unit) : Reading ClockReading := do
  let year ← signedYear
  char '-'
  let month ← short
  char '-'
  let day ← short
  separator
  let hour ← short
  char ':'
  let minute ← short
  char ':'
  let second ← short
  let nanosecond ← fraction
  return ⟨⟨year, month, day⟩, hour, minute, second, nanosecond⟩

def whole {α : Type} (reading : Reading α) (text : String) : Option α :=
  match reading.run text.toList with
  | some (value, []) => some value
  | _ => none

end Reading

/-- The instant that a text writes in the internet form. -/
def readInternet? (text : String) : Option Timestamp := do
  let (clock, offset) ← Reading.whole Reading.internet text
  if clock.valid then return clock.toTimestamp offset else none

/-- The instant that a text writes in the local form. -/
def readLocal? (separator : Reading Unit) (text : String) : Option Timestamp := do
  let clock ← Reading.whole (Reading.localForm separator) text
  if clock.valid then return clock.toTimestamp 0 else none

def read? (text : String) : Option Timestamp :=
  readInternet? text
    <|> readLocal? (Reading.char 'T') text
    <|> readLocal? Reading.blanks text

/-- The instant a number of seconds after the start of the year 1970. -/
def ofUnixSeconds (seconds : Int) : Timestamp :=
  let start := CalendarDate.dayNumber ⟨1970, 1, 1⟩
  ⟨start + seconds.fdiv 86400, (seconds.fmod 86400).toNat, false, 0⟩

def padded (width number : Nat) : String :=
  let digits := Nat.toDigits 10 number
  String.ofList (List.replicate (width - digits.length) '0' ++ digits)

/-- A year has four digits, and a sign where four digits are not enough. -/
def yearText (year : Int) : String :=
  if 0 ≤ year ∧ year ≤ 9999 then padded 4 year.toNat
  else (if year < 0 then "-" else "+") ++ padded 4 year.natAbs

/-- An instant in the internet form, in universal time and whole seconds. -/
def text (instant : Timestamp) : String :=
  let date := CalendarDate.ofDayNumber instant.day
  let seconds := instant.second % 60 + (if instant.leap then 1 else 0)
  s!"{yearText date.year}-{padded 2 date.month}-{padded 2 date.day}T" ++
    s!"{padded 2 (instant.second / 3600)}:{padded 2 (instant.second / 60 % 60)}:" ++
    s!"{padded 2 seconds}Z"

end Timestamp

end ConnectorConsole
