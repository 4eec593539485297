import ConnectorConsole.Ops.Command
import ConnectorConsole.Proofs.Number.Digits
import ConnectorConsole.Proofs.Text.Splitting
import Mathlib.Data.List.Perm.Basic

/-!
# Filters typed on a line

A word after the command to filter gives a setting: a name, an equals sign and a value.  A line
is understood exactly when each of its words gives a setting, and of several settings of one kind
the last counts.  Filters that are written out come back, whatever the order of the words and the
blanks between them.
-/

namespace ConnectorConsole

/-- What one word of a line sets. -/
inductive FilterSetting where
  | window (hours : UInt32)
  | status (text : String)
  | connector (text : String)
deriving DecidableEq, Repr

namespace FilterSetting

def hours? : FilterSetting → Option UInt32
  | .window hours => some hours
  | _ => none

def status? : FilterSetting → Option String
  | .status text => some text
  | _ => none

def connector? : FilterSetting → Option String
  | .connector text => some text
  | _ => none

def windowNames : List String := ["window", "window_hours"]

def statusNames : List String := ["status"]

def connectorNames : List String := ["connector", "connector_id"]

/-- Words that give a setting under one of its names.  A window is a number of hours, at least
one and of 32 bits. -/
inductive Gives : String → FilterSetting → Prop where
  | window {name value : String} {hours : UInt32} (isName : name ∈ windowNames)
      (positive : 1 ≤ hours) (written : WritesNat value hours.toNat) :
      Gives (name ++ "=" ++ value) (.window hours)
  | status {name : String} (isName : name ∈ statusNames) (value : String) :
      Gives (name ++ "=" ++ value) (.status value)
  | connector {name : String} (isName : name ∈ connectorNames) (value : String) :
      Gives (name ++ "=" ++ value) (.connector value)

def applyTo (filters : Filters) : FilterSetting → Filters
  | .window hours => { filters with windowHours := some hours }
  | .status text => { filters with status := text }
  | .connector text => { filters with connectorId := text }

end FilterSetting

open FilterSetting

/-- The last setting of each kind, absent or empty when there is none. -/
def Filters.lastOf (settings : List FilterSetting) : Filters where
  windowHours := (settings.filterMap hours?).getLast?
  status := (settings.filterMap status?).getLast?.getD ""
  connectorId := (settings.filterMap connector?).getLast?.getD ""

theorem Filters.lastOf_concat (earlier : List FilterSetting) (last : FilterSetting) :
    lastOf (earlier ++ [last]) = last.applyTo (lastOf earlier) := by
  cases last <;> simp [lastOf, applyTo, hours?, status?, connector?]

theorem Filters.foldl_applyTo (settings : List FilterSetting) :
    settings.foldl applyTo ⟨none, "", ""⟩ = lastOf settings := by
  induction settings using List.reverseRecOn with
  | nil => rfl
  | append_singleton earlier last ih =>
      rw [List.foldl_concat, ih, lastOf_concat]

section Cut

variable {name value word : String}

theorem cutAt_assignment (noMark : '=' ∉ name.toList) :
    Text.cutAt '=' (name ++ "=" ++ value) = some (name, value) := by
  have unmarked : ∀ c ∈ name.toList, c ≠ '=' := fun c member isMark => noMark (isMark ▸ member)
  have chars : (name ++ "=" ++ value).toList = name.toList ++ '=' :: value.toList := by
    simp
  rw [Text.cutAt, chars, Text.cut_append_cons unmarked]
  simp

theorem eq_of_cutAt (isCut : Text.cutAt '=' word = some (name, value)) :
    word = name ++ "=" ++ value := by
  obtain ⟨⟨before, after⟩, cut, isPair⟩ := Option.map_eq_some_iff.mp isCut
  cases isPair
  rw [← String.toList_inj, Text.eq_of_cut cut]
  simp

end Cut

namespace OperatorLine

variable {word : String} {setting : FilterSetting} {words : List String}
  {settings : List FilterSetting}

theorem readWithin?_window {value : String} {hours : UInt32} (positive : 1 ≤ hours)
    (written : WritesNat value hours.toNat) :
    readWithin? 1 (UInt32.size - 1) value = some hours.toNat := by
  have bound : hours.toNat ≤ UInt32.size - 1 := Nat.le_pred_of_lt hours.toNat_lt
  have atLeastOne : 1 ≤ hours.toNat := UInt32.le_iff_toNat_le.mp positive
  rw [readWithin?, readNat?_eq_some_iff.mpr written, Option.filter_some, decide_eq_true bound,
    decide_eq_true atLeastOne]
  rfl

theorem assignFilter_of_gives (filters : Filters) (gives : Gives word setting) :
    assignFilter filters word = .ok (setting.applyTo filters) := by
  cases gives with
  | @window name value hours isName positive written =>
      have noMark : ∀ name ∈ windowNames, '=' ∉ name.toList := by decide
      have isWindow : name = "window" ∨ name = "window_hours" := by simpa [windowNames] using isName
      rw [assignFilter, cutAt_assignment (noMark name isName)]
      dsimp only
      rw [if_pos isWindow, readWithin?_window positive written]
      dsimp only
      rw [UInt32.ofNat_toNat]
      rfl
  | status isName value =>
      obtain rfl := List.mem_singleton.mp isName
      rw [assignFilter, cutAt_assignment (by decide)]
      rfl
  | @connector name isName value =>
      have noMark : ∀ name ∈ connectorNames, '=' ∉ name.toList := by decide
      have others : ∀ name ∈ connectorNames,
          ¬(name = "window" ∨ name = "window_hours") ∧ name ≠ "status" := by decide
      have isConnector : name = "connector" ∨ name = "connector_id" := by
        simpa [connectorNames] using isName
      rw [assignFilter, cutAt_assignment (noMark name isName)]
      dsimp only
      rw [if_neg (others name isName).1, if_neg (others name isName).2, if_pos isConnector]
      rfl

theorem gives_of_assignFilter {filters next : Filters}
    (assigned : assignFilter filters word = .ok next) : ∃ setting, Gives word setting := by
  rw [assignFilter] at assigned
  split at assigned
  next => cases assigned
  next name value isCut =>
    rw [eq_of_cutAt isCut]
    split at assigned
    next isWindow =>
      split at assigned
      next hours isRead =>
        obtain ⟨written, inRange⟩ := Option.filter_eq_some_iff.mp isRead
        rw [readNat?_eq_some_iff] at written
        rw [Bool.and_eq_true, decide_eq_true_eq, decide_eq_true_eq] at inRange
        have small : hours < UInt32.size := Nat.lt_of_le_pred (by decide) inRange.2
        have same : (UInt32.ofNat hours).toNat = hours := UInt32.toNat_ofNat_of_lt' small
        refine ⟨.window (UInt32.ofNat hours), .window ?_ ?_ (same.symm ▸ written)⟩
        · simpa [windowNames] using isWindow
        · rw [UInt32.le_iff_toNat_le, same]
          exact inRange.1
      next => cases assigned
    next =>
      split at assigned
      next isStatus => exact ⟨.status value, .status (List.mem_singleton.mpr isStatus) value⟩
      next =>
        split at assigned
        next isConnector =>
          exact ⟨.connector value, .connector (by simpa [connectorNames] using isConnector) value⟩
        next => cases assigned

theorem foldlM_of_gives (gives : List.Forall₂ Gives words settings) (start : Filters) :
    words.foldlM assignFilter start = .ok (settings.foldl applyTo start) := by
  induction gives generalizing start with
  | nil => rfl
  | cons first _ ih =>
      rw [List.foldlM_cons, assignFilter_of_gives start first]
      exact ih _

theorem gives_of_foldlM {start final : Filters}
    (assigned : words.foldlM assignFilter start = .ok final) :
    ∃ settings, List.Forall₂ Gives words settings := by
  induction words generalizing start with
  | nil => exact ⟨[], .nil⟩
  | cons word words ih =>
      rw [List.foldlM_cons] at assigned
      cases isFirst : assignFilter start word with
      | error problem =>
          rw [isFirst] at assigned
          cases assigned
      | ok next =>
          rw [isFirst] at assigned
          obtain ⟨setting, first⟩ := gives_of_assignFilter isFirst
          obtain ⟨settings, others⟩ := ih assigned
          exact ⟨setting :: settings, .cons first others⟩

/-- Settings are given in turn when each word gives one. -/
theorem exists_settings_iff :
    (∃ settings, List.Forall₂ Gives words settings) ↔
      ∀ word ∈ words, ∃ setting, Gives word setting := by
  induction words with
  | nil => exact ⟨fun _ => List.forall_mem_nil _, fun _ => ⟨[], .nil⟩⟩
  | cons word words ih =>
      rw [List.forall_mem_cons, ← ih]
      constructor
      · rintro ⟨_, _ | ⟨first, others⟩⟩
        exact ⟨⟨_, first⟩, _, others⟩
      · rintro ⟨⟨_, first⟩, _, others⟩
        exact ⟨_, .cons first others⟩

section Line

variable {line head : String} (isLine : Text.words line = head :: words)
  (isFilter : Text.lowerAscii head ∈ ["f", "filter"])
include isLine isFilter

theorem read_filter :
    read line = (readFilters words).map fun filters => .command (.change (.filter filters)) := by
  rw [read, isLine]
  dsimp only
  rw [List.mem_cons, List.mem_singleton] at isFilter
  rcases isFilter with isName | isName <;> rw [isName] <;> rfl

theorem read_of_gives (gives : List.Forall₂ Gives words settings) :
    read line = .ok (.command (.change (.filter (Filters.lastOf settings)))) := by
  rw [read_filter isLine isFilter, readFilters, foldlM_of_gives gives, Filters.foldl_applyTo]
  rfl

theorem exists_read_iff :
    (∃ said, read line = .ok said) ↔ ∀ word ∈ words, ∃ setting, Gives word setting := by
  rw [← exists_settings_iff]
  constructor
  · rintro ⟨said, isRead⟩
    rw [read_filter isLine isFilter] at isRead
    cases isRun : readFilters words with
    | error problem =>
        rw [isRun] at isRead
        cases isRead
    | ok filters => exact gives_of_foldlM isRun
  · rintro ⟨settings, gives⟩
    exact ⟨_, read_of_gives isLine isFilter gives⟩

end Line

end OperatorLine

namespace Filters

/-! ### Filters written out -/

/-- The words for a window: one of two, or none without a window. -/
def windowWords : Option UInt32 → List (List String)
  | none => [[]]
  | some hours => windowNames.map fun name => [name ++ "=" ++ toString hours.toNat]

/-- The words for a text: one under any of its names, or none when it is empty. -/
def textWords (names : List String) (text : String) : List (List String) :=
  names.map (fun name => [name ++ "=" ++ text]) ++ if text = "" then [[]] else []

/-- Words that write filters, in any order. -/
def Written (filters : Filters) (words : List String) : Prop :=
  ∃ window ∈ windowWords filters.windowHours, ∃ status ∈ textWords statusNames filters.status,
    ∃ connector ∈ textWords connectorNames filters.connectorId,
      words.Perm (window ++ status ++ connector)

section Written

variable {words : List String}

theorem gives_windowWords {hours : Option UInt32} (positive : ∀ count ∈ hours, 1 ≤ count)
    (member : words ∈ windowWords hours) :
    List.Forall₂ Gives words (hours.toList.map .window) := by
  cases hours with
  | none =>
      obtain rfl := List.mem_singleton.mp member
      exact .nil
  | some hours =>
      obtain ⟨name, isName, rfl⟩ := List.mem_map.mp member
      exact .cons (.window isName (positive hours rfl) (writesNat_toString _)) .nil

theorem mem_textWords_iff {names : List String} {text : String} :
    words ∈ textWords names text ↔
      (∃ name ∈ names, words = [name ++ "=" ++ text]) ∨ text = "" ∧ words = [] := by
  rw [textWords, List.mem_append, List.mem_map]
  refine or_congr (exists_congr fun name => and_congr_right' eq_comm) ?_
  split <;> simp_all

/-- The words for a text set it, unless there are none and the text is empty. -/
theorem gives_textWords {names : List String} {text : String} {setting : String → FilterSetting}
    (gives : ∀ name ∈ names, Gives (name ++ "=" ++ text) (setting text))
    (member : words ∈ textWords names text) :
    ∃ given : Option String, given.getD "" = text ∧
      List.Forall₂ Gives words (given.toList.map setting) := by
  rcases mem_textWords_iff.mp member with ⟨name, isName, rfl⟩ | ⟨rfl, rfl⟩
  · exact ⟨some text, rfl, .cons (gives name isName) .nil⟩
  · exact ⟨none, rfl, .nil⟩

theorem getLast?_of_perm {α : Type} {values : List α} {value : Option α}
    (order : values.Perm value.toList) : values.getLast? = value := by
  cases value with
  | none => rw [order.eq_nil, List.getLast?_nil]
  | some value => rw [List.perm_singleton.mp order, List.getLast?_singleton]

/-- When there is one setting of each kind at most, their order does not matter. -/
theorem lastOf_of_perm {settings : List FilterSetting} {window : Option UInt32}
    {status connector : Option String}
    (order : settings.Perm (window.toList.map .window ++ status.toList.map .status ++
      connector.toList.map .connector)) :
    lastOf settings = ⟨window, status.getD "", connector.getD ""⟩ := by
  have windows := order.filterMap hours?
  have statuses := order.filterMap status?
  have connectors := order.filterMap connector?
  simp only [List.filterMap_append, List.filterMap_map, Function.comp_def, hours?, status?,
    connector?, List.filterMap_some, List.filterMap_none, List.append_nil, List.nil_append]
    at windows statuses connectors
  rw [lastOf, getLast?_of_perm windows, getLast?_of_perm statuses, getLast?_of_perm connectors]

/-- Words that write filters give settings of which these filters are the last. -/
theorem exists_settings_of_written {filters : Filters}
    (positive : ∀ hours ∈ filters.windowHours, 1 ≤ hours) (written : filters.Written words) :
    ∃ settings, List.Forall₂ Gives words settings ∧ lastOf settings = filters := by
  obtain ⟨window, isWindow, status, isStatus, connector, isConnector, order⟩ := written
  have windows := gives_windowWords positive isWindow
  obtain ⟨givenStatus, sameStatus, statuses⟩ :=
    gives_textWords (fun name isName => .status isName filters.status) isStatus
  obtain ⟨givenConnector, sameConnector, connectors⟩ :=
    gives_textWords (fun name isName => .connector isName filters.connectorId) isConnector
  have inTurn := List.rel_append (List.rel_append windows statuses) connectors
  obtain ⟨settings, gives, sameOrder⟩ := List.perm_comp_forall₂ order inTurn
  refine ⟨settings, gives, ?_⟩
  rw [lastOf_of_perm sameOrder, sameStatus, sameConnector]

theorem whole_assignment {name value : String} (isName : Text.Unbroken name)
    (isValue : Text.Unbroken value) :
    name ++ "=" ++ value ≠ "" ∧ Text.Unbroken (name ++ "=" ++ value) := by
  constructor
  · simp [← String.toList_eq_nil_iff]
  · intro c member
    simp only [String.toList_append, List.mem_append] at member
    rcases member with (inName | isMark) | inValue
    · exact isName c inName
    · obtain rfl : c = '=' := by simpa using isMark
      rfl
    · exact isValue c inValue

theorem whole_windowWords {hours : Option UInt32} (member : words ∈ windowWords hours) :
    ∀ word ∈ words, word ≠ "" ∧ Text.Unbroken word := by
  have names : ∀ name ∈ windowNames, Text.Unbroken name := by decide
  cases hours with
  | none =>
      obtain rfl := List.mem_singleton.mp member
      exact List.forall_mem_nil _
  | some hours =>
      obtain ⟨name, isName, rfl⟩ := List.mem_map.mp member
      exact List.forall_mem_singleton.mpr
        (whole_assignment (names name isName) fun _ => not_blank_of_mem_toString)

theorem whole_textWords {names : List String} {text : String}
    (unbroken : ∀ name ∈ names, Text.Unbroken name) (isText : Text.Unbroken text)
    (member : words ∈ textWords names text) : ∀ word ∈ words, word ≠ "" ∧ Text.Unbroken word := by
  rcases mem_textWords_iff.mp member with ⟨name, isName, rfl⟩ | ⟨-, rfl⟩
  · exact List.forall_mem_singleton.mpr (whole_assignment (unbroken name isName) isText)
  · exact List.forall_mem_nil _

theorem whole_of_written {filters : Filters} (isStatus : Text.Unbroken filters.status)
    (isConnector : Text.Unbroken filters.connectorId) (written : filters.Written words) :
    ∀ word ∈ words, word ≠ "" ∧ Text.Unbroken word := by
  obtain ⟨window, windows, status, statuses, connector, connectors, order⟩ := written
  intro word member
  rw [order.mem_iff, List.mem_append, List.mem_append] at member
  rcases member with (inWindow | inStatus) | inConnector
  · exact whole_windowWords windows word inWindow
  · exact whole_textWords (by decide) isStatus statuses word inStatus
  · exact whole_textWords (by decide) isConnector connectors word inConnector

end Written

end Filters

namespace OperatorLine

theorem whole_command {head : String} (isFilter : Text.lowerAscii head ∈ ["f", "filter"]) :
    head ≠ "" ∧ Text.Unbroken head := by
  have spellings : ∀ lower ∈ ["f", "filter"],
      ∀ chars ∈ (lower.toList.map fun c => [c, c.toUpper]).sections,
        chars ≠ [] ∧ chars.any Text.isBlank = false := by
    decide
  obtain ⟨present, unbroken⟩ := spellings _ isFilter _ (Text.mem_spellings head)
  refine ⟨fun empty => present (String.toList_eq_nil_iff.mpr empty), fun c member => ?_⟩
  exact Bool.eq_false_iff.mpr (List.any_eq_false.mp unbroken c member)

/-- A line whose first word is the command to filter, in any letter case, is understood exactly
when every further word gives a setting.  It then asks for the last window, status and connector
that are given.  Filters that are written out come back, in whatever order their words stand and
whatever blanks stand around them. -/
theorem filter_lines_read :
    (∀ line head words, Text.words line = head :: words → Text.lowerAscii head ∈ ["f", "filter"] →
      ((∃ said, read line = .ok said) ↔ ∀ word ∈ words, ∃ setting, Gives word setting) ∧
      ∀ settings, List.Forall₂ Gives words settings →
        read line = .ok (.command (.change (.filter (Filters.lastOf settings))))) ∧
    ∀ (filters : Filters) (head : String) (words : List String) (line : String),
      (∀ hours ∈ filters.windowHours, 1 ≤ hours) → Text.Unbroken filters.status →
      Text.Unbroken filters.connectorId → Text.lowerAscii head ∈ ["f", "filter"] →
      filters.Written words → Text.Spaced (head :: words) line.toList →
      read line = .ok (.command (.change (.filter filters))) := by
  constructor
  · intro line head words isLine isFilter
    exact ⟨exists_read_iff isLine isFilter, fun settings => read_of_gives isLine isFilter⟩
  · intro filters head words line positive isStatus isConnector isFilter written spaced
    have whole : ∀ word ∈ head :: words, word ≠ "" ∧ Text.Unbroken word :=
      List.forall_mem_cons.mpr
        ⟨whole_command isFilter, Filters.whole_of_written isStatus isConnector written⟩
    have isLine := Text.words_of_spaced spaced whole
    rw [String.ofList_toList] at isLine
    obtain ⟨settings, gives, isLast⟩ := Filters.exists_settings_of_written positive written
    rw [read_of_gives isLine isFilter gives, isLast]

/-- A window is given twice, once with a plus sign, and a status is taken back; the filters that
are written out have an equals sign in the connector. -/
theorem filter_lines_read_repeated :
    let words := ["window=+024", "status=failed", "connector=a=b", "window_hours=7", "status="]
    let settings : List FilterSetting :=
      [.window 24, .status "failed", .connector "a=b", .window 7, .status ""]
    let filters : Filters := ⟨some 24, "failed", "a=b"⟩
    let written := ["connector_id=a=b", "window=24", "status=failed"]
    let line := "\tF  connector_id=a=b window=24\u3000status=failed\r"
    Text.words "FILTER window=+024 status=failed connector=a=b window_hours=7 status=" =
        "FILTER" :: words ∧
      List.Forall₂ Gives words settings ∧
      read "FILTER window=+024 status=failed connector=a=b window_hours=7 status=" =
        .ok (.command (.change (.filter ⟨some 7, "", "a=b"⟩))) ∧
      filters.Written written ∧ Text.Spaced ("F" :: written) line.toList ∧
      read line = .ok (.command (.change (.filter filters))) := by
  intro words settings filters written line
  have isLine : Text.words "FILTER window=+024 status=failed connector=a=b window_hours=7 status=" =
      "FILTER" :: words := by decide
  have plusSign : Gives "window=+024" (.window 24) :=
    @Gives.window "window" "+024" 24 (by decide) (by decide)
      (.inr ⟨['0', '2', '4'], rfl, by decide, List.all_eq_true.mp rfl, rfl⟩)
  have noSign : Gives "window_hours=7" (.window 7) :=
    @Gives.window "window_hours" "7" 7 (by decide) (by decide)
      (.inl ⟨by decide, List.all_eq_true.mp rfl, rfl⟩)
  have gives : List.Forall₂ Gives words settings :=
    .cons plusSign (.cons (@Gives.status "status" (by decide) "failed")
      (.cons (@Gives.connector "connector" (by decide) "a=b")
        (.cons noSign (.cons (@Gives.status "status" (by decide) "") .nil))))
  have isWritten : filters.Written written :=
    ⟨["window=24"], by decide, ["status=failed"], by decide, ["connector_id=a=b"], by decide,
      by decide⟩
  have chars : line.toList = ['\t'] ++ "F".toList ++ ([' ', ' '] ++ "connector_id=a=b".toList ++
      ([' '] ++ "window=24".toList ++ (['\u3000'] ++ "status=failed".toList ++ ['\r']))) := by
    decide
  have spaced : Text.Spaced ("F" :: written) line.toList := by
    have blank {rest : List Char} {c : Char} (isHead : rest.head? = some c)
        (isBlank : Text.isBlank c = true) : ∀ c ∈ rest.head?, Text.isBlank c = true := by
      rw [isHead]
      rintro _ ⟨⟩
      exact isBlank
    rw [chars]
    refine .cons (List.all_eq_true.mp rfl) (blank rfl rfl) ?_
    refine .cons (List.all_eq_true.mp rfl) (blank rfl rfl) ?_
    refine .cons (List.all_eq_true.mp rfl) (blank rfl rfl) ?_
    exact .cons (List.all_eq_true.mp rfl) (blank rfl rfl) (.nil (List.all_eq_true.mp rfl))
  have positive : ∀ hours ∈ filters.windowHours, 1 ≤ hours := by
    rintro _ ⟨⟩
    decide
  obtain ⟨lines, comeBack⟩ := filter_lines_read
  exact ⟨isLine, gives, (lines _ _ _ isLine (by decide)).2 settings gives, isWritten, spaced,
    comeBack filters "F" written line positive (by decide) (by decide) (by decide) isWritten
      spaced⟩

end OperatorLine

end ConnectorConsole
