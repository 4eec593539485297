import ConnectorConsole.Ops.Command
import ConnectorConsole.Proofs.Text.Splitting
import ConnectorConsole.Proofs.Text.Utf8Validity

/-!
# What the operator types

The operator's bytes are cut at every line feed, and what is not ended by one is the last line.
A carriage return at the end of a line does not count.  The lines that are text are heard up to
the first that is not, and not beyond a line that says to quit: each gives its command, or is
answered with help and gives none.
-/

namespace ConnectorConsole

theorem OperatorLine.read_push {c : Char} (isBlank : Text.isBlank c = true) (text : String) :
    read (text.push c) = read text := by
  rw [read, read, Text.words, Text.fields_push isBlank, ← Text.words]

namespace Command

section Lines

/-- A line without the carriage return at its end. -/
def withoutReturn (line : List UInt8) : List UInt8 :=
  if line.getLast? = some 0x0D then line.dropLast else line

/-- The pieces between line feeds, each without the carriage return at its end.  There is no
further line after a line feed with which the bytes end. -/
def typedLines (bytes : List UInt8) : List (List UInt8) :=
  let pieces := bytes.splitOn 0x0A
  (if pieces.getLast? = some [] then pieces.dropLast else pieces).map withoutReturn

variable {line : List UInt8}

theorem typedLines_append_cons (noFeed : 0x0A ∉ line) (rest : List UInt8) :
    typedLines (line ++ 0x0A :: rest) = withoutReturn line :: typedLines rest := by
  rw [typedLines, List.splitOn_append_cons_self_of_not_mem noFeed, typedLines]
  cases pieces : rest.splitOn 0x0A with
  | nil => exact absurd pieces (List.splitOn_ne_nil _ _)
  | cons piece more =>
      rw [List.getLast?_cons_cons, List.dropLast_cons_cons]
      split <;> rfl

theorem typedLines_of_no_feed (noFeed : 0x0A ∉ line) :
    typedLines line = if line = [] then [] else [withoutReturn line] := by
  rw [typedLines, List.splitOn_eq_singleton noFeed]
  cases line <;> rfl

theorem withoutReturn_cons {byte : UInt8} (further : byte ≠ 0x0D ∨ line ≠ []) :
    withoutReturn (byte :: line) = byte :: withoutReturn line := by
  cases line with
  | nil =>
      have noReturn : byte ≠ 0x0D := further.resolve_right fun present => present rfl
      simp [withoutReturn, noReturn]
  | cons next line =>
      rw [withoutReturn, List.getLast?_cons_cons, List.dropLast_cons_cons, withoutReturn]
      split <;> rfl

theorem lines_append_cons (noFeed : 0x0A ∉ line) (rest : List UInt8) :
    lines (line ++ 0x0A :: rest) = withoutReturn line :: lines rest := by
  induction line with
  | nil => rfl
  | cons byte line ih =>
      rw [List.mem_cons, not_or] at noFeed
      have ended := ih noFeed.2
      rw [List.cons_append, lines, if_neg (Ne.symm noFeed.1), ended]
      split
      next dropped =>
        -- only a line feed is next to the carriage return that is dropped
        cases line with
        | nil => rw [dropped.1]; rfl
        | cons next line =>
            obtain rfl : next = 0x0A := Option.some.inj dropped.2
            simp at noFeed
      next kept =>
        rw [withoutReturn_cons]
        by_contra onlyReturn
        rw [not_or, not_not, not_not] at onlyReturn
        exact kept ⟨onlyReturn.1, by rw [onlyReturn.2]; rfl⟩

theorem lines_of_no_feed (noFeed : 0x0A ∉ line) :
    lines line = if line = [] then [] else [line] := by
  induction line with
  | nil => rfl
  | cons byte line ih =>
      rw [List.mem_cons, not_or] at noFeed
      have kept : ¬(byte = 0x0D ∧ line.head? = some 0x0A) :=
        fun dropped => noFeed.2 (List.mem_of_head? dropped.2)
      rw [lines, if_neg (Ne.symm noFeed.1), if_neg kept, ih noFeed.2]
      cases line <;> rfl

/-- Bytes are a last line without an end, or a line with its end before other bytes. -/
theorem induction_on_lines {motive : List UInt8 → Prop}
    (last : ∀ line, 0x0A ∉ line → motive line)
    (ended : ∀ line rest, 0x0A ∉ line → motive rest → motive (line ++ 0x0A :: rest))
    (bytes : List UInt8) : motive bytes := by
  induction size : bytes.length using Nat.strong_induction_on generalizing bytes with
  | _ size ih =>
      subst size
      by_cases hasFeed : 0x0A ∈ bytes
      · obtain ⟨line, rest, rfl, noFeed⟩ := List.eq_append_cons_of_mem hasFeed
        exact ended line rest noFeed (ih rest.length (by simp; omega) rest rfl)
      · exact last bytes hasFeed

end Lines

section Said

/-- What a line comes to: what it says, or why it says nothing. -/
abbrev Reading := Except CommandProblem OperatorLine

def said? (line : List UInt8) : Option Reading :=
  (Utf8.decode? line).map OperatorLine.read

theorem said?_encode (text : String) : said? (Utf8.encode text) = some (OperatorLine.read text) := by
  rw [said?, Utf8.decode?_eq_some_iff.mpr rfl]
  rfl

theorem said?_eq_none_iff {line : List UInt8} :
    said? line = none ↔ ∀ text, line ≠ Utf8.encode text := by
  rw [said?, Option.map_eq_none_iff, Option.eq_none_iff_forall_ne_some]
  exact forall_congr' fun text => not_congr Utf8.decode?_eq_some_iff

theorem said?_withoutReturn (line : List UInt8) : said? (withoutReturn line) = said? line := by
  rw [withoutReturn]
  split
  next isReturn =>
    have whole : line.dropLast ++ [0x0D] = line := List.dropLast_append_getLast? _ isReturn
    have same : said? (line.dropLast ++ [0x0D]) = said? line.dropLast := by
      rw [said?, Utf8.decode?_concat (by decide), Option.map_map, said?]
      exact congrArg (Option.map · _) (funext fun text => OperatorLine.read_push (by decide) text)
    rw [← same, whole]
  next => rfl

/-- The carriage return at the end of the last line is a blank to those who read the line. -/
theorem map_said?_lines (bytes : List UInt8) :
    (lines bytes).map said? = (typedLines bytes).map said? := by
  induction bytes using induction_on_lines with
  | last line noFeed =>
      rw [lines_of_no_feed noFeed, typedLines_of_no_feed noFeed]
      split
      next => rfl
      next => rw [List.map_singleton, List.map_singleton, said?_withoutReturn]
  | ended line rest noFeed ih =>
      rw [lines_append_cons noFeed, typedLines_append_cons noFeed, List.map_cons, List.map_cons, ih]

end Said

section Heard

def given? : Reading → Option Command
  | .ok (.command command) => some command
  | _ => none

/-- What the operator is told about a line. -/
def toldOf : Reading → String
  | .ok (.command _) => ""
  | .ok .help => OperatorLine.helpText ++ "\n"
  | .error problem => problem.message ++ "\n" ++ OperatorLine.helpText ++ "\n"

/-- The lines before the first that gives the command to quit, and that one. -/
def throughQuit (readings : List Reading) : List Reading :=
  readings.takeWhile (fun reading => given? reading ≠ some .quit) ++
    (readings.dropWhile fun reading => given? reading ≠ some .quit).take 1

theorem throughQuit_cons (reading : Reading) (readings : List Reading) :
    throughQuit (reading :: readings) =
      reading :: if given? reading = some .quit then [] else throughQuit readings := by
  by_cases quits : given? reading = some .quit <;> simp [throughQuit, quits]

theorem readLines_cons_of_none {line : List UInt8} (noText : said? line = none)
    (rest : List (List UInt8)) : readLines (line :: rest) = ([], "") := by
  rw [readLines, Option.map_eq_none_iff.mp noText]

/-- A line gives its command and is answered; what follows is read unless it says to quit. -/
theorem readLines_cons {line : List UInt8} {reading : Reading} (isSaid : said? line = some reading)
    (rest : List (List UInt8)) :
    readLines (line :: rest) =
      let more := if given? reading = some .quit then ([], "") else readLines rest
      ((given? reading).toList ++ more.1, toldOf reading ++ more.2) := by
  obtain ⟨text, decodes, rfl⟩ := Option.map_eq_some_iff.mp isSaid
  rw [readLines, decodes]
  cases isRead : OperatorLine.read text with
  | error problem => simp [isRead, given?, toldOf]
  | ok said =>
      cases said with
      | help => simp [isRead, given?, toldOf]
      | command command => cases command <;> simp [isRead, given?, toldOf]

/-- Lines that are text are heard up to one that is not, and not beyond one that says to quit. -/
theorem readLines_of_said {lines : List (List UInt8)} {readings : List Reading}
    {others : List (Option Reading)} (areSaid : lines.map said? = readings.map some ++ others)
    (noText : ∀ other ∈ others.head?, other = none) :
    readLines lines =
      ((throughQuit readings).filterMap given?,
        String.join ((throughQuit readings).map toldOf)) := by
  induction readings generalizing lines with
  | nil =>
      cases lines with
      | nil => rfl
      | cons line rest =>
          subst areSaid
          rw [readLines_cons_of_none (noText _ rfl)]
          rfl
  | cons reading readings ih =>
      obtain ⟨line, rest, rfl, isSaid, areSaid⟩ := List.map_eq_cons_iff.mp areSaid
      rw [readLines_cons isSaid, ih areSaid, throughQuit_cons]
      have commands (further : List Reading) : (reading :: further).filterMap given? =
          (given? reading).toList ++ further.filterMap given? := by
        cases given : given? reading <;> simp [given]
      split
      next => simp [commands, String.join_cons]
      next => simp [commands, String.join_cons]

/-- Lines are texts up to the first that is not. -/
theorem exists_texts (lines : List (List UInt8)) :
    ∃ (texts : List String) (rest : List (List UInt8)), lines = texts.map Utf8.encode ++ rest ∧
      ∀ line ∈ rest.head?, ∀ text, line ≠ Utf8.encode text := by
  induction lines with
  | nil => exact ⟨[], [], rfl, nofun⟩
  | cons line lines ih =>
      by_cases isText : ∃ text, line = Utf8.encode text
      · obtain ⟨text, rfl⟩ := isText
        obtain ⟨texts, rest, rfl, noText⟩ := ih
        exact ⟨text :: texts, rest, rfl, noText⟩
      · refine ⟨[], line :: lines, rfl, ?_⟩
        rintro _ ⟨⟩ text isEncoded
        exact isText ⟨text, isEncoded⟩

end Heard

/-- The lines that the operator types are texts up to the first that is not, if any.  Of those
texts each is heard that comes before the first to say to quit, and that one: their commands are
taken in order, and the others are answered in order. -/
theorem readAll_hears_lines (bytes : List UInt8) :
    ∃ (texts : List String) (rest : List (List UInt8)),
      typedLines bytes = texts.map Utf8.encode ++ rest ∧
      (∀ line ∈ rest.head?, ∀ text, line ≠ Utf8.encode text) ∧
      let heard := throughQuit (texts.map OperatorLine.read)
      readAll bytes = (heard.filterMap given?, String.join (heard.map toldOf)) := by
  obtain ⟨texts, rest, areTyped, noText⟩ := exists_texts (typedLines bytes)
  refine ⟨texts, rest, areTyped, noText, ?_⟩
  have areSaid : (lines bytes).map said? =
      (texts.map OperatorLine.read).map some ++ rest.map said? := by
    rw [map_said?_lines, areTyped, List.map_append, List.map_map, List.map_map]
    exact congrArg (· ++ _) (List.map_congr_left fun text _ => said?_encode text)
  refine readLines_of_said areSaid fun other isNext => ?_
  rw [List.head?_map, Option.mem_def, Option.map_eq_some_iff] at isNext
  obtain ⟨line, isNext, rfl⟩ := isNext
  exact said?_eq_none_iff.mpr (noText line isNext)

example : (readAll (Utf8.encode "n\r\nbogus\n\nq\nn")).1 = [.change .next, .refresh, .quit] := by
  decide

end Command

end ConnectorConsole
