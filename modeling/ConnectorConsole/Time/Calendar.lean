/-!
# Calendar

Dates of the Gregorian calendar, extended to all years, are numbered by days.
The count starts at 1 March of the year 0, so that a leap day is always the last
day of its year and the calendar repeats exactly after 400 years.
-/

namespace ConnectorConsole

/-- A date of the Gregorian calendar. -/
structure CalendarDate where
  year : Int
  month : Nat
  day : Nat
deriving DecidableEq, Repr

namespace CalendarDate

def isLeapYear (year : Int) : Bool :=
  year % 4 = 0 && (year % 100 != 0 || year % 400 = 0)

def daysInMonth (year : Int) (month : Nat) : Nat :=
  if month = 2 then if isLeapYear year then 29 else 28
  else if [4, 6, 9, 11].contains month then 30
  else 31

def exists? (date : CalendarDate) : Bool :=
  1 ≤ date.month && date.month ≤ 12 && 1 ≤ date.day &&
    date.day ≤ daysInMonth date.year date.month

/-- The days before a month in a year that begins with March. -/
def daysBefore (monthFromMarch : Nat) : Nat :=
  (153 * monthFromMarch + 2) / 5

def dayNumber (date : CalendarDate) : Int :=
  let year := if date.month ≤ 2 then date.year - 1 else date.year
  let monthFromMarch := (date.month + 9) % 12
  365 * year + year / 4 - year / 100 + year / 400 + daysBefore monthFromMarch + date.day - 1

def ofDayNumber (number : Int) : CalendarDate :=
  let era := number / 146097
  let dayOfEra := (number % 146097).toNat
  let yearOfEra := (dayOfEra - dayOfEra / 1460 + dayOfEra / 36524 - dayOfEra / 146096) / 365
  let dayOfYear := dayOfEra - (365 * yearOfEra + yearOfEra / 4 - yearOfEra / 100)
  let monthFromMarch := (5 * dayOfYear + 2) / 153
  let month := if monthFromMarch < 10 then monthFromMarch + 3 else monthFromMarch - 9
  { year := yearOfEra + era * 400 + (if month ≤ 2 then 1 else 0)
    month
    day := dayOfYear - daysBefore monthFromMarch + 1 }

end CalendarDate

end ConnectorConsole
