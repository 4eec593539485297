import ConnectorConsole.Proofs.Editor.Defaults
import Mathlib.Data.List.Basic
import Mathlib.Data.List.Induction
import Mathlib.Tactic.SplitIfs

/-!
# Switching from mode to mode

A form that is led through several modes keeps what only one mode has as long as no
other mode is on the way.  It keeps the source type as long as every mode on the way
offers it; once the source type has given way to the first one of a mode, it is the
first one of every mode that follows.  Nothing else changes.
-/

namespace ConnectorConsole

namespace Mode

/-- The text fields that a mode has for itself. -/
def ownFields : Mode → List TextField
  | .sqlPull => [.query]
  | .restPull =>
    [.url, .method, .payload, .headers, .cursorField, .nextCursorPath, .tokenUrl, .clientId,
     .clientAuthMethod, .scopes, .audience, .clientSecretRef]
  | .restPush => []
  | .filePull => [.path, .glob, .fileFormat]

theorem mem_ownFields_iff {owner : Mode} {field : TextField} :
    field ∈ owner.ownFields ↔ field.group.owner? = some owner := by
  cases owner <;> cases field <;> decide

theorem firstSourceType_mem (mode : Mode) : mode.firstSourceType ∈ mode.sourceTypes := by
  cases mode <;> decide

end Mode

namespace Form

section Step

variable (form : Form) (mode : Mode)

theorem setMode_text_own {owner : Mode} {field : TextField} (own : field ∈ owner.ownFields) :
    (form.setMode mode).text field = if mode = owner then form.text field else "" := by
  have isOwner := Mode.mem_ownFields_iff.mp own
  have notSourceType : field ≠ .sourceType := by
    rintro rfl
    cases isOwner
  simp only [setMode, leaves, isOwner, notSourceType, if_false, bne_iff_ne, ne_eq,
    eq_comm (a := owner), ite_not]

theorem setMode_text_shared {field : TextField} (notSourceType : field ≠ .sourceType)
    (shared : ∀ owner : Mode, field ∉ owner.ownFields) :
    (form.setMode mode).text field = form.text field := by
  have noOwner : field.group.owner? = none :=
    Option.eq_none_iff_forall_ne_some.mpr fun owner isOwner =>
      shared owner (Mode.mem_ownFields_iff.mpr isOwner)
  simp [setMode, leaves, noOwner, notSourceType]

theorem setMode_auth :
    (form.setMode mode).auth = if mode = .restPull then form.auth else .staticBearer := by
  cases mode <;> rfl

theorem setMode_sourceType :
    (form.setMode mode).text .sourceType =
      if form.text .sourceType ∈ mode.sourceTypes then form.text .sourceType
      else mode.firstSourceType := by
  simp [setMode]

theorem setMode_sourceType_mem : (form.setMode mode).text .sourceType ∈ mode.sourceTypes := by
  rw [setMode_sourceType]
  split
  · assumption
  · exact mode.firstSourceType_mem

end Step

/-- The form after switching to some modes in order. -/
def switchThrough (form : Form) (modes : List Mode) : Form :=
  modes.foldl setMode form

theorem switchThrough_concat (form : Form) (modes : List Mode) (last : Mode) :
    form.switchThrough (modes ++ [last]) = (form.switchThrough modes).setMode last := by
  rw [switchThrough, List.foldl_append]
  rfl

/-- What a form is that was led through some modes from a start. -/
structure SwitchedThrough (start : Form) (modes : List Mode) (form : Form) : Prop where
  own : ∀ owner : Mode, ∀ field ∈ owner.ownFields,
    form.text field = if ∀ mode ∈ modes, mode = owner then start.text field else ""
  auth : form.auth = if ∀ mode ∈ modes, mode = .restPull then start.auth else .staticBearer
  sourceType : form.text .sourceType =
    if ∀ mode ∈ modes, start.text .sourceType ∈ mode.sourceTypes then start.text .sourceType
    else form.mode.firstSourceType
  shared : ∀ field, field ≠ .sourceType → (∀ owner : Mode, field ∉ owner.ownFields) →
    form.text field = start.text field
  scheduleEnabled : form.scheduleEnabled = start.scheduleEnabled

namespace SwitchedThrough

theorem refl (start : Form) : SwitchedThrough start [] start := by
  constructor <;> simp

variable {start form : Form} {modes : List Mode}

/-- One more mode. -/
theorem setMode (switched : SwitchedThrough start modes form) (next : Mode) :
    SwitchedThrough start (modes ++ [next]) (form.setMode next) := by
  constructor
  case own =>
    intro owner field own
    rw [form.setMode_text_own next own, switched.own owner field own]
    simp only [List.forall_mem_append, List.forall_mem_singleton, ite_and]
    split_ifs <;> rfl
  case auth =>
    rw [form.setMode_auth, switched.auth]
    simp only [List.forall_mem_append, List.forall_mem_singleton, ite_and]
    split_ifs <;> rfl
  case sourceType =>
    rw [form.setMode_sourceType, switched.sourceType]
    by_cases kept : ∀ mode ∈ modes, start.text .sourceType ∈ mode.sourceTypes
    · -- the source type is that of the start, and the new mode alone decides
      rw [if_pos kept]
      simp only [List.forall_mem_append, List.forall_mem_singleton, and_iff_right kept]
      rfl
    · -- the source type is the first one of the mode that is left
      have notKept : ¬∀ mode ∈ modes ++ [next], start.text .sourceType ∈ mode.sourceTypes :=
        fun all => kept (List.forall_mem_append.mp all).1
      rw [if_neg kept, if_neg notKept]
      split
      next offered => exact Mode.firstSourceType_eq offered
      next => rfl
  case shared =>
    intro field notSourceType shared
    rw [form.setMode_text_shared next notSourceType shared,
      switched.shared field notSourceType shared]
  case scheduleEnabled => exact switched.scheduleEnabled

end SwitchedThrough

theorem switchedThrough (start : Form) (modes : List Mode) :
    SwitchedThrough start modes (start.switchThrough modes) := by
  induction modes using List.reverseRecOn with
  | nil => exact .refl start
  | append_singleton earlier last ih =>
      rw [switchThrough_concat]
      exact ih.setMode last

/-- After any switches a form is in the last of the modes and has a source type that this mode
offers, whatever the form held at the start. -/
theorem switchThrough_settles (start : Form) (modes : List Mode) (nonempty : modes ≠ []) :
    let form := start.switchThrough modes
    form.mode = modes.getLast nonempty ∧
      form.text .sourceType ∈ (modes.getLast nonempty).sourceTypes ∧
      SwitchedThrough start modes form := by
  intro form
  obtain ⟨earlier, last, rfl⟩ := (List.eq_nil_or_concat' modes).resolve_left nonempty
  have lastSwitch : form = (start.switchThrough earlier).setMode last :=
    start.switchThrough_concat earlier last
  rw [List.getLast_append_singleton]
  refine ⟨?_, ?_, start.switchedThrough _⟩
  · rw [lastSwitch]
    rfl
  · rw [lastSwitch]
    exact setMode_sourceType_mem _ last

/-- From one database to another by way of a service: the engine and the query are lost, and the
secret stays. -/
theorem switchThrough_settles_there_and_back :
    let start := ((empty.setText .sourceType "oracle").setText .query "SELECT 2").setText
      .secretRef " erp "
    let modes : List Mode := [.sqlPull, .restPull, .restPush, .sqlPull]
    let form := start.switchThrough modes
    modes ≠ [] ∧ form.mode = .sqlPull ∧ form.text .sourceType = "postgres" ∧
      form.text .query = "" ∧ form.text .secretRef = " erp " := by
  intro start modes form
  have nonempty : modes ≠ [] := by decide
  obtain ⟨mode, _, switched⟩ := start.switchThrough_settles modes nonempty
  refine ⟨nonempty, mode, ?_, ?_, ?_⟩
  · rw [switched.sourceType, if_neg (by decide), mode]
    rfl
  · rw [switched.own .sqlPull .query (by decide), if_neg (by decide)]
  · exact switched.shared .secretRef (by decide) fun owner => by cases owner <;> decide

end Form

end ConnectorConsole
