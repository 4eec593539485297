import ConnectorConsole.Proofs.Number.Digits
import ConnectorConsole.Time.Timestamp
import Mathlib.Data.List.TakeWhile

/-!
# What readings of dates read

A reading takes a value off the front of a text and leaves the rest.  The rules follow the steps
that a reading is made of: what it reads, and which marks it never takes.
-/

namespace ConnectorConsole

namespace Timestamp

namespace Reading

variable {α β : Type}

/-- A reading turns a text into a value and the rest of the text. -/
def Reads (reading : Reading α) (text : List Char) (value : α) (rest : List Char) : Prop :=
  reading.run text = some (value, rest)

/-- Looking at a text leaves it as it is. -/
theorem run_look (next : List Char → Reading β) (text : List Char) :
    (get >>= next).run text = (next text).run text :=
  rfl

theorem Reads.pure (value : α) (text : List Char) : Reads (pure value) text value text :=
  rfl

theorem Reads.bind {reading : Reading α} {next : α → Reading β} {text between rest : List Char}
    {part : α} {value : β} (first : Reads reading text part between)
    (second : Reads (next part) between value rest) :
    Reads (reading >>= next) text value rest := by
  rw [Reads, StateT.run_bind, first]
  exact second

theorem Reads.charWhere {test : Char → Bool} {c : Char} (passes : test c = true)
    (rest : List Char) : Reads (charWhere test) (c :: rest) c rest := by
  change (if test c then _ else _ : Reading Char).run (c :: rest) = _
  rw [if_pos passes]
  rfl

theorem Reads.discard {reading : Reading α} {text rest : List Char} {value : α}
    (reads : Reads reading text value rest) : Reads (discard reading) text () rest := by
  change ((fun _ => ()) <$> reading).run text = _
  rw [StateT.run_map, reads]
  rfl

theorem Reads.char (c : Char) (rest : List Char) : Reads (char c) (c :: rest) () rest :=
  (Reads.charWhere (decide_eq_true rfl) rest).discard

/-- The digits of a number are read when the place for them has their length. -/
theorem Reads.number {digits : List Char} {value : Nat} (written : WritesDecimal digits value)
    (rest : List Char) :
    Reads (number digits.length digits.length) (digits ++ rest) value rest := by
  have taken : ((digits ++ rest).take digits.length).takeWhile isDigit = digits := by
    rw [List.take_left, List.takeWhile_eq_self_iff]
    exact written.allDigits
  have reads : Reads (Reading.digits digits.length digits.length) (digits ++ rest) digits rest := by
    change (if (((digits ++ rest).take digits.length).takeWhile isDigit).length < digits.length
      then _ else _ : Reading (List Char)).run (digits ++ rest) = _
    rw [taken, if_neg (Nat.lt_irrefl _)]
    change some (digits, (digits ++ rest).drop digits.length) = _
    rw [List.drop_left]
  rw [← written.value]
  exact reads.bind (.pure _ rest)

/-- A mark that a reading takes in no text.  Where the mark is, it is in what is left. -/
def Leaves (mark : Char) (reading : Reading α) : Prop :=
  ∀ text value rest, Reads reading text value rest → mark ∈ text → mark ∈ rest

namespace Leaves

variable {mark : Char}

theorem pure (value : α) : Leaves mark (pure value) := by
  rintro text _ _ ⟨⟩ member
  exact member

theorem bind {reading : Reading α} {next : α → Reading β} (first : Leaves mark reading)
    (second : ∀ value, Leaves mark (next value)) : Leaves mark (reading >>= next) := by
  intro text value rest reads member
  rw [Reads, StateT.run_bind] at reads
  obtain ⟨⟨part, between⟩, isFirst, isSecond⟩ := Option.bind_eq_some_iff.mp reads
  exact second part _ _ _ isSecond (first _ _ _ isFirst member)

theorem charWhere {test : Char → Bool} (fails : test mark = false) :
    Leaves mark (charWhere test) := by
  intro text value rest reads member
  cases text with
  | nil => cases member
  | cons c further =>
      change (if test c then _ else _ : Reading Char).run (c :: further) = _ at reads
      split_ifs at reads with passes
      · cases reads
        refine (List.mem_cons.mp member).resolve_left ?_
        rintro rfl
        rw [fails] at passes
        cases passes
      · cases reads

theorem discard {reading : Reading α} (leaves : Leaves mark reading) :
    Leaves mark (discard reading) := by
  intro text value rest reads member
  change ((fun _ => ()) <$> reading).run text = _ at reads
  rw [StateT.run_map] at reads
  obtain ⟨⟨read, left⟩, isRead, isRest⟩ := Option.map_eq_some_iff.mp reads
  cases isRest
  exact leaves _ _ _ isRead member

theorem char {c : Char} (differs : mark ≠ c) : Leaves mark (char c) :=
  (charWhere (decide_eq_false differs)).discard

/-- A mark that is not in the front of a text is in what is left behind the front. -/
theorem mem_drop {taken text : List Char} (front : taken <+: text) (without : mark ∉ taken)
    (member : mark ∈ text) : mark ∈ text.drop taken.length := by
  rw [← List.prefix_iff_eq_append.mp front, List.mem_append] at member
  exact member.resolve_left without

theorem digits (least most : Nat) (noDigit : isDigit mark = false) :
    Leaves mark (digits least most) := by
  intro text value rest reads member
  change (if ((text.take most).takeWhile isDigit).length < least
    then _ else _ : Reading (List Char)).run text = _ at reads
  split_ifs at reads
  · cases reads
  · cases reads
    refine mem_drop ((List.takeWhile_prefix _).trans (List.take_prefix _ _)) ?_ member
    intro taken
    rw [List.mem_takeWhile_imp taken] at noDigit
    cases noDigit

theorem number (least most : Nat) (noDigit : isDigit mark = false) :
    Leaves mark (number least most) :=
  (digits least most noDigit).bind fun _ => .pure _

theorem dropWhile {test : Char → Bool} (fails : test mark = false) :
    Leaves mark (modify (List.dropWhile test)) := by
  rintro text _ _ ⟨⟩ member
  rw [← List.takeWhile_append_dropWhile (p := test) (l := text), List.mem_append] at member
  refine member.resolve_left fun taken => ?_
  rw [List.mem_takeWhile_imp taken] at fails
  cases fails

theorem blanks (noBlank : Text.isBlank mark = false) : Leaves mark blanks :=
  dropWhile noBlank

/-- A reading that goes on behind the first character when that character is no mark. -/
theorem behind {reading : Reading α} (goesOn : Leaves mark reading) {c : Char} (differs : mark ≠ c)
    {further rest : List Char} {value : α} (reads : Reads reading further value rest)
    (member : mark ∈ c :: further) : mark ∈ rest :=
  goesOn _ _ _ reads ((List.mem_cons.mp member).resolve_left differs)

theorem fraction (noDigit : isDigit mark = false) (noPoint : mark ≠ '.') :
    Leaves mark fraction := by
  intro text value rest reads member
  have digitsBehind : Leaves mark (do
      let taken ← Reading.digits 1 9
      modify (List.dropWhile isDigit)
      return decimalValue (taken ++ List.replicate (9 - taken.length) '0')) :=
    (digits 1 9 noDigit).bind fun _ => (dropWhile noDigit).bind fun _ => .pure _
  rw [Reads, Reading.fraction, run_look] at reads
  split at reads
  · exact digitsBehind.behind noPoint reads member
  · cases reads
    exact member

theorem signedYear (noDigit : isDigit mark = false) (noBlank : Text.isBlank mark = false)
    (noSign : mark ≠ '-' ∧ mark ≠ '+') : Leaves mark signedYear := by
  refine (blanks noBlank).bind fun _ => ?_
  intro text value rest reads member
  have numberBehind (most : Nat) (sign : Nat → Int) :
      Leaves mark (do return sign (← Reading.number 1 most)) :=
    (number 1 most noDigit).bind fun _ => .pure _
  rw [Reads, run_look] at reads
  split at reads
  · exact (numberBehind _ fun read => -(read : Int)).behind noSign.1 reads member
  · exact (numberBehind _ fun read => (read : Int)).behind noSign.2 reads member
  · exact numberBehind _ (fun read => (read : Int)) _ _ _ reads member

theorem short (noDigit : isDigit mark = false) (noBlank : Text.isBlank mark = false) :
    Leaves mark short :=
  (blanks noBlank).bind fun _ => number 1 2 noDigit

/-- The letter that stands for universal time is no part of the local form. -/
theorem localForm {separator : Reading Unit} (separates : Leaves 'Z' separator) :
    Leaves 'Z' (localForm separator) := by
  have field : Leaves 'Z' Reading.short := short rfl rfl
  refine (signedYear rfl rfl (by decide)).bind fun _ => ?_
  refine (char (by decide)).bind fun _ => field.bind fun _ => ?_
  refine (char (by decide)).bind fun _ => field.bind fun _ => separates.bind fun _ => ?_
  refine field.bind fun _ => (char (by decide)).bind fun _ => ?_
  refine field.bind fun _ => (char (by decide)).bind fun _ => ?_
  exact field.bind fun _ => (fraction rfl (by decide)).bind fun _ => .pure _

theorem whole {reading : Reading α} (leaves : Leaves mark reading) {text : String}
    (member : mark ∈ text.toList) : whole reading text = none := by
  rw [Reading.whole]
  split
  next value reads => cases leaves _ _ _ reads member
  next => rfl

end Leaves

theorem Reads.whole {reading : Reading α} {text : String} {value : α}
    (reads : Reads reading text.toList value []) : whole reading text = some value := by
  rw [Reading.whole, reads]

end Reading

/-- A text with the letter for universal time is not in the local form. -/
theorem readLocal?_eq_none {separator : Reading Unit} (separates : Reading.Leaves 'Z' separator)
    {text : String} (member : 'Z' ∈ text.toList) : readLocal? separator text = none := by
  rw [readLocal?, (Reading.Leaves.localForm separates).whole member]
  rfl

/-- A text in the internet form begins with a digit. -/
theorem readInternet?_eq_none {text : String} {c : Char} {rest : List Char}
    (isText : text.toList = c :: rest) (noDigit : isDigit c = false) :
    readInternet? text = none := by
  have noYear : (Reading.number 4 4).run (c :: rest) = none := by
    change (StateT.run (if (((c :: rest).take 4).takeWhile isDigit).length < 4
      then _ else _ : Reading (List Char)) (c :: rest)).bind _ = none
    have notDigit : ¬isDigit c = true := Bool.eq_false_iff.mp noDigit
    rw [List.take_succ_cons, List.takeWhile_cons_of_neg notDigit, if_pos (by decide)]
    rfl
  have noReading : Reading.internet.run text.toList = none := by
    rw [isText, Reading.internet, StateT.run_bind, noYear]
    rfl
  rw [readInternet?, Reading.whole, noReading]
  rfl

end Timestamp

end ConnectorConsole
