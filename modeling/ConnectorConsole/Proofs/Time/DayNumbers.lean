import ConnectorConsole.Time.Calendar
import Mathlib.Tactic.IntervalCases

/-!
# Dates by their numbers

Every number is that of a day, and the date of that day exists.  A day of an era of 400 years lies
in one of four centuries, in one of 25 spans of four years of the century, and in one year of the
span.  Years begin with March, so that a leap day is the last day of its year.
-/

namespace ConnectorConsole

namespace CalendarDate

/-- The place of a day in an era. -/
structure DayOfEra where
  century : Nat
  fourYears : Nat
  year : Nat
  day : Nat
  century_le : century ≤ 3
  fourYears_le : fourYears ≤ 24
  year_le : year ≤ 3
  day_le : day ≤ 365
  /-- Only the last of four years has a leap day, and at the end of a century only the last. -/
  leap : day = 365 → year = 3 ∧ (fourYears = 24 → century = 3)

namespace DayOfEra

variable (place : DayOfEra)

def number : Nat :=
  36524 * place.century + 1461 * place.fourYears + 365 * place.year + place.day

def yearOfEra : Nat :=
  100 * place.century + 4 * place.fourYears + place.year

theorem exists_number {number : Nat} (inEra : number < 146097) :
    ∃ place : DayOfEra, place.number = number := by
  -- a leap day at the end of a century or of four years makes no further part
  obtain ⟨century, inCentury, rfl, century_le, inCentury_le⟩ :
      ∃ century rest, number = 36524 * century + rest ∧ century ≤ 3 ∧
        (rest < 36524 ∨ rest = 36524 ∧ century = 3) :=
    ⟨min (number / 36524) 3, number - 36524 * min (number / 36524) 3, by omega, by omega, by omega⟩
  obtain ⟨fourYears, inFourYears, rfl, fourYears_le, inFourYears_le⟩ :
      ∃ fourYears rest, inCentury = 1461 * fourYears + rest ∧ fourYears ≤ 24 ∧ rest < 1461 :=
    ⟨inCentury / 1461, inCentury % 1461, by omega, by omega, by omega⟩
  obtain ⟨year, day, rfl, year_le, inYear_le⟩ :
      ∃ year rest, inFourYears = 365 * year + rest ∧ year ≤ 3 ∧
        (rest < 365 ∨ rest = 365 ∧ year = 3) :=
    ⟨min (inFourYears / 365) 3, inFourYears - 365 * min (inFourYears / 365) 3, by omega, by omega,
      by omega⟩
  have leap : day = 365 → year = 3 ∧ (fourYears = 24 → century = 3) := by omega
  refine ⟨⟨century, fourYears, year, day, century_le, fourYears_le, year_le, by omega, leap⟩, ?_⟩
  simp only [DayOfEra.number]
  omega

/-- Of the days of an era only the last is the first of a fifth century. -/
theorem number_div_century : place.number / 36524 = place.century + place.number / 146096 := by
  obtain ⟨century, fourYears, year, day, century_le, fourYears_le, year_le, day_le, leap⟩ := place
  simp only [number]
  by_cases within : 1461 * fourYears + 365 * year + day < 36524
  · have notLast : 36524 * century + 1461 * fourYears + 365 * year + day < 146096 := by omega
    rw [Nat.div_eq_of_lt notLast]
    omega
  · obtain ⟨rfl, rfl, rfl, rfl⟩ : century = 3 ∧ fourYears = 24 ∧ year = 3 ∧ day = 365 := by omega
    rfl

/-- Four years are one day longer than 1460 days.  That day is carried in the last year. -/
theorem number_div_fourYears : ∃ carry, carry ≤ place.day ∧ place.day - carry < 365 ∧
    place.number / 1460 = 25 * place.century + place.fourYears + carry := by
  obtain ⟨century, fourYears, year, day, century_le, fourYears_le, year_le, day_le, leap⟩ := place
  simp only [number]
  by_cases within : 24 * century + fourYears + 365 * year + day < 1460
  · exact ⟨0, by omega, by omega, by omega⟩
  · exact ⟨1, by omega, by omega, by omega⟩

/-- Without the leap days before it a day lies in the year that is the quotient by 365. -/
theorem yearOfEra_eq :
    (place.number - place.number / 1460 + place.number / 36524 - place.number / 146096) / 365 =
      place.yearOfEra := by
  obtain ⟨carry, carried, inYear, fourYears⟩ := place.number_div_fourYears
  have withoutLeapDays :
      place.number - (25 * place.century + place.fourYears + carry) + place.century =
        365 * place.yearOfEra + (place.day - carry) := by
    clear inYear fourYears
    rw [number, yearOfEra]
    omega
  rw [place.number_div_century, fourYears, ← Nat.add_assoc, Nat.add_sub_cancel, withoutLeapDays,
    Nat.mul_add_div (by decide), Nat.div_eq_of_lt inYear, Nat.add_zero]

theorem leapDays_yearOfEra : place.yearOfEra / 4 = 25 * place.century + place.fourYears ∧
    place.yearOfEra / 100 = place.century := by
  obtain ⟨century, fourYears, year, day, century_le, fourYears_le, year_le, day_le, leap⟩ := place
  simp only [yearOfEra]
  omega

theorem number_eq :
    place.number =
      365 * place.yearOfEra + place.yearOfEra / 4 - place.yearOfEra / 100 + place.day := by
  obtain ⟨fourYears, centuries⟩ := place.leapDays_yearOfEra
  rw [fourYears, centuries, number, yearOfEra]
  omega

end DayOfEra

/-- The month of a day in a year that begins with March. -/
def monthFromMarch (dayOfYear : Nat) : Nat :=
  (5 * dayOfYear + 2) / 153

/-- The month of the calendar, counted from one in January. -/
def calendarMonth (monthFromMarch : Nat) : Nat :=
  if monthFromMarch < 10 then monthFromMarch + 3 else monthFromMarch - 9

theorem monthFromMarch_spec {dayOfYear : Nat} (inYear : dayOfYear ≤ 365) :
    monthFromMarch dayOfYear ≤ 11 ∧ daysBefore (monthFromMarch dayOfYear) ≤ dayOfYear ∧
      dayOfYear < daysBefore (monthFromMarch dayOfYear + 1) := by
  simp only [monthFromMarch, daysBefore]
  omega

theorem calendarMonth_spec {month : Nat} (inYear : month ≤ 11) :
    1 ≤ calendarMonth month ∧ calendarMonth month ≤ 12 ∧
      (calendarMonth month + 9) % 12 = month := by
  rw [calendarMonth]
  split <;> omega

/-- All months but the last, which is February, have as many days as lie between their starts. -/
theorem daysInMonth_calendarMonth (year : Int) {month : Nat} (notLast : month ≤ 10) :
    daysInMonth year (calendarMonth month) = daysBefore (month + 1) - daysBefore month := by
  interval_cases month <;> rfl

namespace DayOfEra

variable (era : Int) (place : DayOfEra)

/-- The date of a day of an era. -/
def date : CalendarDate where
  year := place.yearOfEra + era * 400 +
    if calendarMonth (monthFromMarch place.day) ≤ 2 then 1 else 0
  month := calendarMonth (monthFromMarch place.day)
  day := place.day - daysBefore (monthFromMarch place.day) + 1

theorem dayNumber_date : (place.date era).dayNumber = era * 146097 + place.number := by
  obtain ⟨inYear, started, -⟩ := monthFromMarch_spec place.day_le
  obtain ⟨-, -, month⟩ := calendarMonth_spec inYear
  have yearOfEra : place.yearOfEra < 400 := by
    have century := place.century_le
    have fourYears := place.fourYears_le
    have year := place.year_le
    rw [DayOfEra.yearOfEra]
    omega
  have year : (if (place.date era).month ≤ 2 then (place.date era).year - 1
      else (place.date era).year) = place.yearOfEra + era * 400 := by
    rw [date]
    dsimp only
    split <;> omega
  have number := place.number_eq
  have day : (place.date era).day = place.day - daysBefore (monthFromMarch place.day) + 1 := rfl
  have monthNumber : ((place.date era).month + 9) % 12 = monthFromMarch place.day := month
  rw [dayNumber, year, monthNumber, day]
  omega

/-- A leap day lies in a leap year. -/
theorem isLeapYear_date (isLeap : place.day = 365) :
    isLeapYear (place.yearOfEra + era * 400 + 1) = true := by
  obtain ⟨year, century⟩ := place.leap isLeap
  have fourYears := place.fourYears_le
  have century_le := place.century_le
  rw [isLeapYear, yearOfEra, year]
  simp only [Bool.and_eq_true, Bool.or_eq_true, decide_eq_true_eq, bne_iff_ne]
  omega

theorem day_le_february (isFebruary : monthFromMarch place.day = 11) :
    (place.date era).day ≤ daysInMonth (place.date era).year (place.date era).month := by
  have inYear := place.day_le
  have days : place.day - daysBefore 11 + 1 ≤ 28 ∨ place.day = 365 := by
    rw [daysBefore]
    omega
  rw [date, isFebruary]
  change place.day - daysBefore 11 + 1 ≤
    if isLeapYear (place.yearOfEra + era * 400 + 1) then 29 else 28
  rcases days with short | isLeap
  · split <;> omega
  · rw [place.isLeapYear_date era isLeap, isLeap, if_pos rfl, daysBefore]

theorem exists_date : (place.date era).exists? = true := by
  obtain ⟨inYear, started, ends⟩ := monthFromMarch_spec place.day_le
  obtain ⟨atLeast, atMost, -⟩ := calendarMonth_spec inYear
  have inMonth :
      (place.date era).day ≤ daysInMonth (place.date era).year (place.date era).month := by
    rcases Nat.lt_or_eq_of_le inYear with notLast | isFebruary
    · have length := daysInMonth_calendarMonth (place.date era).year (Nat.le_of_lt_succ notLast)
      change place.day - daysBefore (monthFromMarch place.day) + 1 ≤
        daysInMonth _ (calendarMonth (monthFromMarch place.day))
      rw [length]
      omega
    · exact place.day_le_february era isFebruary
  simp only [exists?, Bool.and_eq_true, decide_eq_true_eq]
  exact ⟨⟨⟨atLeast, atMost⟩, Nat.le_add_left 1 _⟩, inMonth⟩

end DayOfEra

/-- The date of a day number is that of the day's place in its era. -/
theorem exists_ofDayNumber_eq_date (number : Int) : ∃ (era : Int) (place : DayOfEra),
    number = era * 146097 + place.number ∧ ofDayNumber number = place.date era := by
  have inEra : (number % 146097).toNat < 146097 := by omega
  obtain ⟨place, isPlace⟩ := DayOfEra.exists_number inEra
  have yearOfEra := place.yearOfEra_eq
  have daysBeforeYear := place.number_eq
  rw [isPlace] at yearOfEra daysBeforeYear
  refine ⟨number / 146097, place, by omega, ?_⟩
  have dayOfYear : (number % 146097).toNat -
      (365 * place.yearOfEra + place.yearOfEra / 4 - place.yearOfEra / 100) = place.day := by
    omega
  rw [ofDayNumber, yearOfEra, dayOfYear]
  rfl

/-- The date of a number has that number. -/
theorem dayNumber_ofDayNumber (number : Int) : (ofDayNumber number).dayNumber = number := by
  obtain ⟨era, place, isNumber, isDate⟩ := exists_ofDayNumber_eq_date number
  rw [isDate, place.dayNumber_date, isNumber]

theorem exists_ofDayNumber (number : Int) : (ofDayNumber number).exists? = true := by
  obtain ⟨era, place, -, isDate⟩ := exists_ofDayNumber_eq_date number
  rw [isDate, place.exists_date]

theorem le_of_exists {date : CalendarDate} (isDate : date.exists? = true) :
    date.month ≤ 12 ∧ date.day ≤ 31 := by
  have longest : daysInMonth date.year date.month ≤ 31 := by
    rw [daysInMonth]
    split_ifs <;> decide
  simp only [exists?, Bool.and_eq_true, decide_eq_true_eq] at isDate
  obtain ⟨⟨⟨-, month⟩, -⟩, day⟩ := isDate
  exact ⟨month, day.trans longest⟩

end CalendarDate

end ConnectorConsole
