import ConnectorConsole.Proofs.Text.Trimming
import ConnectorConsole.Proofs.Time.DayNumbers
import ConnectorConsole.Proofs.Time.Readings

/-!
# Written instants

The text of an instant is read back when its year has four digits, which leaves no place for a
sign.  The text of an instant of any other year is in none of the forms that are read.
-/

namespace ConnectorConsole

namespace Timestamp

variable {instant : Timestamp}

/-- The year of universal time. -/
def year (instant : Timestamp) : Int :=
  (CalendarDate.ofDayNumber instant.day).year

/-- The instant without its fraction of a second. -/
def wholeSeconds (instant : Timestamp) : Timestamp :=
  { instant with nanosecond := 0 }

theorem text_wholeSeconds (instant : Timestamp) : instant.wholeSeconds.text = instant.text :=
  rfl

/-- The fields that a clock without fractions shows in universal time. -/
def clock (instant : Timestamp) : ClockReading where
  date := CalendarDate.ofDayNumber instant.day
  hour := instant.second / 3600
  minute := instant.second / 60 % 60
  second := instant.second % 60 + if instant.leap then 1 else 0
  nanosecond := 0

/-- An instant that a clock can show.  Leap seconds come at the end of a minute. -/
structure OnClock (instant : Timestamp) : Prop where
  second_lt : instant.second < 86400
  leap : instant.leap = true → instant.second % 60 = 59

theorem onClock_toTimestamp (clock : ClockReading) (offset : Int) :
    OnClock (clock.toTimestamp offset) := by
  refine ⟨?_, fun isLeap => ?_⟩
  · rw [ClockReading.toTimestamp]
    dsimp only
    omega
  · -- offsets are whole minutes
    have sixty : clock.second = 60 := of_decide_eq_true isLeap
    rw [ClockReading.toTimestamp, if_pos sixty]
    dsimp only
    omega

theorem onClock_of_read? {text : String} (isRead : read? text = some instant) :
    OnClock instant := by
  have shown {clock : ClockReading} {offset : Int}
      (isShown : (if clock.valid then some (clock.toTimestamp offset) else none) = some instant) :
      OnClock instant := by
    split_ifs at isShown
    · cases isShown
      exact onClock_toTimestamp clock offset
  have ofLocal {separator : Reading Unit}
      (isLocal : readLocal? separator text = some instant) : OnClock instant := by
    obtain ⟨clock, -, isShown⟩ := Option.bind_eq_some_iff.mp isLocal
    exact shown isShown
  simp only [read?, Option.orElse_eq_some] at isRead
  rcases isRead with isInternet | ⟨-, isLocal | ⟨-, isLocal⟩⟩
  · obtain ⟨⟨clock, offset⟩, -, isShown⟩ := Option.bind_eq_some_iff.mp isInternet
    exact shown isShown
  · exact ofLocal isLocal
  · exact ofLocal isLocal

theorem toTimestamp_clock (onClock : OnClock instant) :
    instant.clock.toTimestamp 0 = instant.wholeSeconds := by
  obtain ⟨inDay, endsMinute⟩ := onClock
  obtain ⟨day, second, leap, nanosecond⟩ := instant
  dsimp only at inDay endsMinute
  rw [ClockReading.toTimestamp, clock, wholeSeconds, mk.injEq]
  dsimp only
  rw [CalendarDate.dayNumber_ofDayNumber]
  cases leap
  · have noLeap : second % 60 + 0 ≠ 60 := by omega
    rw [if_neg Bool.false_ne_true, if_neg noLeap]
    exact ⟨by omega, by omega, decide_eq_false noLeap, rfl⟩
  · have sixty : second % 60 + 1 = 60 := by rw [endsMinute rfl]
    have ends := endsMinute rfl
    rw [if_pos rfl, if_pos sixty]
    exact ⟨by omega, by omega, decide_eq_true sixty, rfl⟩

/-- A year that is written in four digits without a sign. -/
def FourDigitYear (instant : Timestamp) : Prop :=
  0 ≤ instant.year ∧ instant.year ≤ 9999

instance (instant : Timestamp) : Decidable instant.FourDigitYear :=
  inferInstanceAs (Decidable (0 ≤ instant.year ∧ instant.year ≤ 9999))

theorem clock_bounds (onClock : OnClock instant) :
    instant.clock.hour ≤ 23 ∧ instant.clock.minute ≤ 59 ∧ instant.clock.second ≤ 60 := by
  obtain ⟨inDay, -⟩ := onClock
  have second : instant.clock.second ≤ instant.second % 60 + 1 := by
    rw [clock]
    dsimp only
    split <;> omega
  refine ⟨?_, ?_, by omega⟩
  · exact Nat.le_of_lt_succ (Nat.div_lt_of_lt_mul inDay)
  · exact Nat.le_of_lt_succ (Nat.mod_lt _ (by decide))

theorem date_bounds (instant : Timestamp) :
    instant.clock.date.month < 10 ^ 2 ∧ instant.clock.date.day < 10 ^ 2 := by
  obtain ⟨month, day⟩ := CalendarDate.le_of_exists (CalendarDate.exists_ofDayNumber instant.day)
  exact ⟨Nat.lt_of_le_of_lt month (by decide), Nat.lt_of_le_of_lt day (by decide)⟩

theorem valid_clock (onClock : OnClock instant) (fourDigits : instant.FourDigitYear) :
    instant.clock.valid = true := by
  obtain ⟨hour, minute, second⟩ := clock_bounds onClock
  have known : ClockReading.knownYear instant.clock.date.year = true := by
    obtain ⟨least, greatest⟩ := fourDigits
    change 0 ≤ instant.clock.date.year at least
    change instant.clock.date.year ≤ 9999 at greatest
    rw [ClockReading.knownYear, Bool.and_eq_true, decide_eq_true_iff, decide_eq_true_iff]
    omega
  have isDate : instant.clock.date.exists? = true := CalendarDate.exists_ofDayNumber instant.day
  rw [ClockReading.valid, known, isDate, decide_eq_true hour, decide_eq_true minute,
    decide_eq_true second]
  rfl

theorem writesDecimal_padded (width number : Nat) :
    WritesDecimal (padded width number).toList number := by
  rw [padded, String.toList_ofList]
  exact (writesDecimal_digitsOf number).zeros_append _

theorem length_padded {width number : Nat} (present : 0 < width) (fits : number < 10 ^ width) :
    (padded width number).toList.length = width := by
  have length : (Nat.toDigits 10 number).length ≤ width :=
    (Nat.length_toDigits_le_iff (by decide) present).mpr fits
  rw [padded, String.toList_ofList, List.length_append, List.length_replicate]
  exact Nat.sub_add_cancel length

theorem Reading.Reads.padded {width number : Nat} (present : 0 < width)
    (fits : number < 10 ^ width) (rest : List Char) :
    Reading.Reads (Reading.number width width) ((padded width number).toList ++ rest) number
      rest := by
  have reads := Reading.Reads.number (writesDecimal_padded width number) rest
  rwa [length_padded present fits] at reads

theorem yearText_of_fourDigits (fourDigits : instant.FourDigitYear) :
    yearText instant.year = padded 4 instant.year.toNat :=
  if_pos fourDigits

theorem yearText_of_signed (signed : ¬instant.FourDigitYear) : ∃ sign,
    (yearText instant.year).toList = sign :: (padded 4 instant.year.natAbs).toList ∧
      isDigit sign = false ∧ Text.isBlank sign = false := by
  have isText : yearText instant.year =
      (if instant.year < 0 then "-" else "+") ++ padded 4 instant.year.natAbs :=
    if_neg signed
  rw [isText, String.toList_append]
  split
  · exact ⟨'-', rfl, rfl, rfl⟩
  · exact ⟨'+', rfl, rfl, rfl⟩

theorem toList_text (instant : Timestamp) :
    instant.text.toList =
      (yearText instant.year).toList ++ '-' :: ((padded 2 instant.clock.date.month).toList ++
        '-' :: ((padded 2 instant.clock.date.day).toList ++
          'T' :: ((padded 2 instant.clock.hour).toList ++
            ':' :: ((padded 2 instant.clock.minute).toList ++
              ':' :: ((padded 2 instant.clock.second).toList ++ ['Z']))))) := by
  simp [text, year, clock, toString]

/-- Universal time is stated by one letter, and without a point there is no fraction. -/
theorem reads_text (onClock : OnClock instant) (fourDigits : instant.FourDigitYear) :
    Reading.Reads Reading.internet instant.text.toList (instant.clock, 0) [] := by
  obtain ⟨hour, minute, second⟩ := clock_bounds onClock
  obtain ⟨month, day⟩ := date_bounds instant
  have fits : instant.year.toNat < 10 ^ 4 := by
    obtain ⟨least, greatest⟩ := fourDigits
    omega
  have isYear : instant.clock.date.year = instant.year.toNat :=
    (Int.toNat_of_nonneg fourDigits.1).symm
  rw [toList_text, yearText_of_fourDigits fourDigits, Reading.internet]
  refine (Reading.Reads.padded (by decide) fits _).bind ?_
  refine (Reading.Reads.char '-' _).bind ?_
  refine (Reading.Reads.padded (by decide) month _).bind ?_
  refine (Reading.Reads.char '-' _).bind ?_
  refine (Reading.Reads.padded (by decide) day _).bind ?_
  refine (Reading.Reads.charWhere (by decide) _).discard.bind ?_
  refine (Reading.Reads.padded (by decide) (Nat.lt_of_le_of_lt hour (by decide)) _).bind ?_
  refine (Reading.Reads.char ':' _).bind ?_
  refine (Reading.Reads.padded (by decide) (Nat.lt_of_le_of_lt minute (by decide)) _).bind ?_
  refine (Reading.Reads.char ':' _).bind ?_
  refine (Reading.Reads.padded (by decide) (Nat.lt_of_le_of_lt second (by decide)) _).bind ?_
  rw [← isYear]
  rfl

theorem read?_text (onClock : OnClock instant) (fourDigits : instant.FourDigitYear) :
    read? instant.text = some instant.wholeSeconds := by
  have internet : readInternet? instant.text = some instant.wholeSeconds := by
    rw [readInternet?, (reads_text onClock fourDigits).whole]
    change (if instant.clock.valid then some (instant.clock.toTimestamp 0) else none) = _
    rw [if_pos (valid_clock onClock fourDigits), toTimestamp_clock onClock]
  rw [read?, internet]
  rfl

/-- A sign in front is not in the internet form, and the letter at the end not in the others. -/
theorem read?_text_eq_none (signed : ¬instant.FourDigitYear) : read? instant.text = none := by
  have letter : 'Z' ∈ instant.text.toList := by
    rw [toList_text]
    simp
  obtain ⟨sign, isYear, noDigit, -⟩ := yearText_of_signed signed
  have isText := toList_text instant
  rw [isYear] at isText
  rw [read?, readInternet?_eq_none isText noDigit,
    readLocal?_eq_none (.char (by decide)) letter, readLocal?_eq_none (.blanks rfl) letter]
  rfl

theorem filled_text (instant : Timestamp) : Text.Filled instant.text := by
  obtain ⟨first, rest, isYear, notBlank⟩ : ∃ first rest,
      (yearText instant.year).toList = first :: rest ∧ Text.isBlank first = false := by
    by_cases fourDigits : instant.FourDigitYear
    · have written := writesDecimal_padded 4 instant.year.toNat
      rw [← yearText_of_fourDigits fourDigits] at written
      obtain ⟨first, rest, isYear⟩ := List.exists_cons_of_ne_nil written.present
      refine ⟨first, rest, isYear, not_blank_of_digit (written.allDigits first ?_)⟩
      rw [isYear]
      exact List.mem_cons_self
    · obtain ⟨sign, isYear, -, notBlank⟩ := yearText_of_signed fourDigits
      exact ⟨sign, _, isYear, notBlank⟩
  refine ⟨?_, ?_, ?_⟩
  · rw [Ne, ← String.toList_eq_nil_iff, toList_text, isYear]
    exact List.cons_ne_nil _ _
  · rw [toList_text, isYear]
    rintro c ⟨⟩
    exact notBlank
  · obtain ⟨front, isText⟩ : ∃ front, instant.text.toList = front ++ ['Z'] := by
      rw [toList_text]
      simp only [← List.cons_append, ← List.append_assoc]
      exact ⟨_, rfl⟩
    rw [isText, List.getLast?_concat]
    rintro c ⟨⟩
    rfl

end Timestamp

end ConnectorConsole
