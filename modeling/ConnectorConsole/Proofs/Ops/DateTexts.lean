import ConnectorConsole.Ops.Display
import ConnectorConsole.Proofs.Time.WrittenInstants

/-!
# Dates on the screen

A date that is read is shown in universal time, and the screen shows the same when its own text is
served.  The instant is lost only with its fraction of a second, or where its year needs a sign.
-/

namespace ConnectorConsole

namespace ClockReading

/-- The seconds of universal time when a clock shows the fields, with leap seconds counted as the
seconds before them. -/
def universalSecond (clock : ClockReading) (offset : Int) : Int :=
  86400 * clock.date.dayNumber + (3600 * clock.hour + 60 * clock.minute + min clock.second 59) -
    60 * offset

theorem universalSecond_eq {clock : ClockReading} (offset : Int) (second : clock.second ≤ 60) :
    86400 * (clock.toTimestamp offset).day + (clock.toTimestamp offset).second =
      clock.universalSecond offset := by
  have counted : (if clock.second = 60 then 59 else clock.second) = min clock.second 59 := by
    split <;> omega
  rw [toTimestamp, universalSecond]
  dsimp only
  rw [counted]
  omega

/-- Clocks of any offsets show the same second at the same time of universal time. -/
theorem wholeSeconds_toTimestamp_iff {clock other : ClockReading} {offset otherOffset : Int}
    (second : clock.second ≤ 60) (otherSecond : other.second ≤ 60) :
    (clock.toTimestamp offset).wholeSeconds = (other.toTimestamp otherOffset).wholeSeconds ↔
      clock.universalSecond offset = other.universalSecond otherOffset ∧
        (clock.second = 60 ↔ other.second = 60) := by
  have inDay := (Timestamp.onClock_toTimestamp clock offset).second_lt
  have otherInDay := (Timestamp.onClock_toTimestamp other otherOffset).second_lt
  have sameLeap : (clock.toTimestamp offset).leap = (other.toTimestamp otherOffset).leap ↔
      (clock.second = 60 ↔ other.second = 60) :=
    decide_eq_decide
  rw [← universalSecond_eq offset second, ← universalSecond_eq otherOffset otherSecond, ← sameLeap,
    Timestamp.wholeSeconds, Timestamp.wholeSeconds, Timestamp.mk.injEq]
  constructor
  · rintro ⟨day, second, leap, -⟩
    rw [day, second]
    exact ⟨rfl, leap⟩
  · rintro ⟨total, leap⟩
    exact ⟨by omega, by omega, leap, rfl⟩

end ClockReading

theorem dateText_of_blank {served : String} (blank : Text.blank served = true) :
    dateText (some served) = notAvailable := by
  have nothing : Text.nonBlank? served = none := if_pos blank
  rw [dateText, nothing]

theorem dateText_of_unread {served : String} (notBlank : Text.blank served = false)
    (unread : Timestamp.read? (Text.trim served) = none) : dateText (some served) = served := by
  rw [dateText, Text.nonBlank?_of_not_blank notBlank]
  dsimp only
  rw [unread]

theorem dateText_of_read {served : String} {instant : Timestamp}
    (isRead : Timestamp.read? (Text.trim served) = some instant) :
    dateText (some served) = instant.text := by
  have notBlank : Text.blank served = false := by
    rw [← Bool.not_eq_true, ← Text.trim_eq_empty_iff]
    intro empty
    have nothing : Timestamp.read? "" = none := rfl
    rw [empty, nothing] at isRead
    cases isRead
  rw [dateText, Text.nonBlank?_of_not_blank notBlank]
  dsimp only
  rw [isRead]

theorem dateText_text {instant : Timestamp} (onClock : instant.OnClock) :
    dateText (some instant.text) = instant.text := by
  have filled := instant.filled_text
  have trimmed := Text.trim_of_trimmed filled.2
  by_cases fourDigits : instant.FourDigitYear
  · have isRead : Timestamp.read? (Text.trim instant.text) = some instant.wholeSeconds := by
      rw [trimmed, Timestamp.read?_text onClock fourDigits]
    rw [dateText_of_read isRead, instant.text_wholeSeconds]
  · refine dateText_of_unread (Text.not_blank_of_filled filled) ?_
    rw [trimmed, Timestamp.read?_text_eq_none fourDigits]

theorem dateText_dateText (served : String) :
    dateText (some (dateText (some served))) = dateText (some served) := by
  by_cases blank : Text.blank served = true
  · rw [dateText_of_blank blank]
    rfl
  · cases isRead : Timestamp.read? (Text.trim served) with
    | some instant =>
        rw [dateText_of_read isRead, dateText_text (Timestamp.onClock_of_read? isRead)]
    | none =>
        have unread := dateText_of_unread (Bool.eq_false_iff.mpr blank) isRead
        rw [unread, unread]

theorem read?_dateText {served : String} {instant : Timestamp}
    (isRead : Timestamp.read? (Text.trim served) = some instant)
    (fourDigits : instant.FourDigitYear) :
    Timestamp.read? (dateText (some served)) = some instant.wholeSeconds := by
  rw [dateText_of_read isRead,
    Timestamp.read?_text (Timestamp.onClock_of_read? isRead) fourDigits]

/-- The text of an instant does not tell its fraction of a second. -/
theorem dateText_eq_of_wholeSeconds_eq {served other : String} {instant otherInstant : Timestamp}
    (isRead : Timestamp.read? (Text.trim served) = some instant)
    (otherIsRead : Timestamp.read? (Text.trim other) = some otherInstant)
    (same : instant.wholeSeconds = otherInstant.wholeSeconds) :
    dateText (some served) = dateText (some other) := by
  rw [dateText_of_read isRead, dateText_of_read otherIsRead, ← instant.text_wholeSeconds, same,
    otherInstant.text_wholeSeconds]

/-- Dates in the internet form, of any offsets. -/
theorem read?_of_internet {text : String} {clock : ClockReading} {offset : Int}
    (isWritten : Timestamp.Reading.whole Timestamp.Reading.internet text = some (clock, offset))
    (valid : clock.valid = true) :
    Timestamp.read? text = some (clock.toTimestamp offset) := by
  have internet : Timestamp.readInternet? text = some (clock.toTimestamp offset) := by
    rw [Timestamp.readInternet?, isWritten]
    exact if_pos valid
  rw [Timestamp.read?, internet]
  rfl

theorem ClockReading.second_le_of_valid {clock : ClockReading} (valid : clock.valid = true) :
    clock.second ≤ 60 := by
  rw [ClockReading.valid, Bool.and_eq_true, decide_eq_true_iff] at valid
  exact valid.2

/-- A date on the screen is the same when it is served again.  When the year has four digits, it is
read as the served instant in whole seconds, so that two dates are shown alike just when their
instants are the same second, and dates of different offsets are shown alike when their clocks
show the same second of universal time. -/
theorem dates_settle :
    (∀ served : String, dateText (some (dateText (some served))) = dateText (some served)) ∧
    (∀ (served : String) (instant : Timestamp),
      Timestamp.read? (Text.trim served) = some instant → instant.FourDigitYear →
      Timestamp.read? (dateText (some served)) = some instant.wholeSeconds) ∧
    (∀ (served other : String) (instant otherInstant : Timestamp),
      Timestamp.read? (Text.trim served) = some instant →
      Timestamp.read? (Text.trim other) = some otherInstant →
      instant.FourDigitYear → otherInstant.FourDigitYear →
      (dateText (some served) = dateText (some other) ↔
        instant.wholeSeconds = otherInstant.wholeSeconds)) ∧
    ∀ (served other : String) (clock otherClock : ClockReading) (offset otherOffset : Int),
      Timestamp.Reading.whole Timestamp.Reading.internet (Text.trim served) =
        some (clock, offset) →
      Timestamp.Reading.whole Timestamp.Reading.internet (Text.trim other) =
        some (otherClock, otherOffset) →
      clock.valid = true → otherClock.valid = true →
      clock.universalSecond offset = otherClock.universalSecond otherOffset →
      (clock.second = 60 ↔ otherClock.second = 60) →
      dateText (some served) = dateText (some other) := by
  refine ⟨dateText_dateText, ?readBack, ?alike, ?offsets⟩
  case readBack =>
    intro served instant isRead fourDigits
    exact read?_dateText isRead fourDigits
  case alike =>
    intro served other instant otherInstant isRead otherIsRead fourDigits otherFourDigits
    refine ⟨fun sameText => ?_, dateText_eq_of_wholeSeconds_eq isRead otherIsRead⟩
    have readBack := read?_dateText isRead fourDigits
    rw [sameText, read?_dateText otherIsRead otherFourDigits] at readBack
    exact (Option.some.inj readBack).symm
  case offsets =>
    intro served other clock otherClock offset otherOffset isWritten otherIsWritten valid
      otherValid sameSecond sameLeap
    refine dateText_eq_of_wholeSeconds_eq (read?_of_internet isWritten valid)
      (read?_of_internet otherIsWritten otherValid) ?_
    exact (ClockReading.wholeSeconds_toTimestamp_iff (ClockReading.second_le_of_valid valid)
      (ClockReading.second_le_of_valid otherValid)).mpr ⟨sameSecond, sameLeap⟩

/-- A leap second at the end of a year, told on the next day in one place, on the same day in
another, and without an offset. -/
theorem dates_settle_new_year :
    let east := " 2017-01-01T05:29:60.250+05:30"
    let west := "2016-12-31t18:59:60-05:00"
    let unplaced := "2016-12-31 23:59:60.9"
    dateText (some (dateText (some east))) = dateText (some east) ∧
      Timestamp.read? (dateText (some east)) = some ⟨736634, 86399, true, 0⟩ ∧
      dateText (some east) = dateText (some unplaced) ∧
      dateText (some east) = dateText (some west) := by
  obtain ⟨settled, readBack, alike, offsets⟩ := dates_settle
  refine ⟨settled _, ?_, ?_, ?_⟩
  · exact readBack _ ⟨736634, 86399, true, 250000000⟩ (by decide +kernel) (by decide +kernel)
  · exact (alike _ _ ⟨736634, 86399, true, 250000000⟩ ⟨736634, 86399, true, 900000000⟩
      (by decide +kernel) (by decide +kernel) (by decide +kernel) (by decide +kernel)).mpr rfl
  · exact offsets _ _ ⟨⟨2017, 1, 1⟩, 5, 29, 60, 250000000⟩ ⟨⟨2016, 12, 31⟩, 18, 59, 60, 0⟩ 330
      (-300) (by decide +kernel) (by decide +kernel) (by decide) (by decide) (by decide)
      (by decide)

end ConnectorConsole
