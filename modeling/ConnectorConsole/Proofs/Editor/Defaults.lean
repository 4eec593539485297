import ConnectorConsole.Proofs.Editor.Edits
import ConnectorConsole.Proofs.Editor.HiddenFields

/-!
# Defaults and the drafts built

Filling in defaults changes what the editor shows, but not what it builds, neither
now nor after further editing.  A form whose defaults were filled in at some time
and one where they never were differ in fields only that are blank in the latter
and hold the value of a default slot in the former.  Every operation keeps this, and
building fills the blanks with the same values.
-/

namespace ConnectorConsole

namespace DefaultSlot

/-- Apart from the source type a default does not depend on the mode. -/
theorem value_congr {slot : DefaultSlot} (other : slot ≠ .sourceType) (first second : Mode) :
    slot.value first = slot.value second := by
  cases slot with
  | sourceType => exact absurd rfl other
  | _ => rfl

theorem value_not_blank (slot : DefaultSlot) (mode : Mode) :
    Text.blank (slot.value mode) = false := by
  cases slot <;> cases mode <;> rfl

end DefaultSlot

namespace Layout

/-- A value that a layout fills in is that of a slot. -/
theorem slot_of_default? {mode : Mode} {auth : AuthMode} {field : TextField} {value : String}
    (filled : (resolve mode auth).default? field = some value) :
    ∃ slot : DefaultSlot, slot.filled mode auth = true ∧ slot.field = field ∧
      value = slot.value mode := by
  obtain ⟨entry, found, rfl⟩ := Option.map_eq_some_iff.mp filled
  have isField := List.find?_some found
  obtain ⟨slot, isFilled, rfl⟩ := List.mem_map.mp (List.mem_of_find?_eq_some found)
  exact ⟨slot, (List.mem_filter.mp isFilled).2, beq_iff_eq.mp isField, rfl⟩

/-- A slot that is filled gives its field its value. -/
theorem default?_field {mode : Mode} {auth : AuthMode} {slot : DefaultSlot}
    (filled : slot.filled mode auth = true) :
    (resolve mode auth).default? slot.field = some (slot.value mode) := by
  cases mode <;> cases auth <;> cases slot <;> first | rfl | exact absurd filled (by decide)

end Layout

namespace Mode

/-- The source type offered first in one mode is offered first in every mode that
offers it. -/
theorem firstSourceType_eq {mode other : Mode}
    (offered : mode.firstSourceType ∈ other.sourceTypes) :
    mode.firstSourceType = other.firstSourceType := by
  cases mode <;> cases other <;> first | rfl | exact absurd offered (by decide)

theorem blank_not_offered {text : String} (blank : Text.blank text = true) (mode : Mode) :
    text ∉ mode.sourceTypes := by
  intro offered
  have noneBlank : ∀ offeredType ∈ mode.sourceTypes, Text.blank offeredType = false := by
    cases mode <;> decide
  rw [noneBlank text offered] at blank
  exact Bool.false_ne_true blank

end Mode

namespace Form

/-- One form is like another with some defaults filled in: where the two differ, the
other is blank and this one holds the value of a default slot. -/
structure Prefilled (filled plain : Form) : Prop where
  mode : filled.mode = plain.mode
  auth : filled.auth = plain.auth
  scheduleEnabled : filled.scheduleEnabled = plain.scheduleEnabled
  text : ∀ field : TextField, filled.text field = plain.text field ∨
    (Text.blank (plain.text field) = true ∧
      ∃ slot : DefaultSlot, slot.field = field ∧ filled.text field = slot.value plain.mode)

namespace Prefilled

theorem refl (form : Form) : Prefilled form form :=
  ⟨rfl, rfl, rfl, fun _ => .inl rfl⟩

variable {filled plain : Form}

theorem applyDefaults (prefilled : Prefilled filled plain) :
    Prefilled filled.applyDefaults plain := by
  refine ⟨prefilled.mode, prefilled.auth, prefilled.scheduleEnabled, fun field => ?_⟩
  simp only [Form.applyDefaults]
  split
  next value default =>
    split
    next blank =>
      obtain ⟨slot, _, isField, rfl⟩ := Layout.slot_of_default? default
      rcases prefilled.text field with same | ⟨plainBlank, _⟩
      · exact .inr ⟨same ▸ blank, slot, isField, by rw [prefilled.mode]⟩
      · exact .inr ⟨plainBlank, slot, isField, by rw [prefilled.mode]⟩
    next => exact prefilled.text field
  next => exact prefilled.text field

theorem setText (prefilled : Prefilled filled plain) (field : TextField) (value : String) :
    Prefilled (filled.setText field value) (plain.setText field value) := by
  refine ⟨prefilled.mode, prefilled.auth, prefilled.scheduleEnabled, fun other => ?_⟩
  by_cases isField : other = field
  · exact .inl (by simp [Form.setText, isField])
  · simpa [Form.setText, isField] using prefilled.text other

theorem setAuth (prefilled : Prefilled filled plain) (auth : AuthMode) :
    Prefilled (filled.setAuth auth) (plain.setAuth auth) :=
  ⟨prefilled.mode, rfl, prefilled.scheduleEnabled, prefilled.text⟩

theorem setScheduleEnabled (prefilled : Prefilled filled plain) (enabled : Bool) :
    Prefilled { filled with scheduleEnabled := enabled }
      { plain with scheduleEnabled := enabled } :=
  ⟨prefilled.mode, prefilled.auth, rfl, prefilled.text⟩

/-- Switching modes makes the source types equal: a blank one gives way to the first
that is offered, and so does one filled in, unless it is that one already. -/
theorem setMode_sourceType (prefilled : Prefilled filled plain) (mode : Mode) :
    (filled.setMode mode).text .sourceType = (plain.setMode mode).text .sourceType := by
  simp only [Form.setMode, if_true, List.contains_iff_mem]
  rcases prefilled.text .sourceType with same | ⟨plainBlank, slot, isField, isValue⟩
  · rw [same]
  · have isSourceType : slot = .sourceType := by cases slot <;> simp_all [DefaultSlot.field]
    rw [if_neg (Mode.blank_not_offered plainBlank mode), isValue, isSourceType]
    split
    next offered => exact Mode.firstSourceType_eq offered
    next => rfl

theorem setMode (prefilled : Prefilled filled plain) (mode : Mode) :
    Prefilled (filled.setMode mode) (plain.setMode mode) := by
  constructor
  case mode => rfl
  case auth => simp only [Form.setMode, prefilled.auth]
  case scheduleEnabled => exact prefilled.scheduleEnabled
  case text =>
    intro field
    by_cases isSourceType : field = .sourceType
    · exact .inl (isSourceType ▸ prefilled.setMode_sourceType mode)
    · simp only [Form.setMode, isSourceType, if_false]
      split
      · exact .inl rfl
      · rcases prefilled.text field with same | ⟨plainBlank, slot, isField, isValue⟩
        · exact .inl same
        · have otherSlot : slot ≠ .sourceType := by
            rintro rfl
            exact isSourceType isField.symm
          exact .inr ⟨plainBlank, slot, isField,
            isValue.trans (DefaultSlot.value_congr otherSlot _ _)⟩

/-- An operation other than filling in defaults is refused for both forms alike and
keeps one of them prefilled. -/
theorem step (prefilled : Prefilled filled plain) {edit : Edit} (other : edit ≠ .applyDefaults) :
    edit.refusal? filled = edit.refusal? plain ∧
      Prefilled (edit.apply filled) (edit.apply plain) := by
  cases edit with
  | applyDefaults => exact absurd rfl other
  | setMode mode => exact ⟨rfl, prefilled.setMode mode⟩
  | setAuth auth => exact ⟨rfl, prefilled.setAuth auth⟩
  | assign key value =>
      simp only [Edit.refusal?, Edit.apply, Edit.attempt]
      rcases assign_cases key value with ⟨fault, refused⟩ | ⟨field, sets⟩ | ⟨mode, switches⟩ |
        ⟨auth, switches⟩ | ⟨enabled, switches⟩
      · simpa only [refused, true_and] using prefilled
      · simpa only [sets, true_and] using prefilled.setText field value
      · simpa only [switches, true_and] using prefilled.setMode mode
      · simpa only [switches, true_and] using prefilled.setAuth auth
      · simpa only [switches, true_and] using prefilled.setScheduleEnabled enabled

/-- A session keeps a form prefilled against the same session without defaults. -/
theorem run (prefilled : Prefilled filled plain) (edits : List Edit) :
    (filled.outcomes edits).filter (fun outcome => outcome.1 ≠ .applyDefaults) =
        plain.outcomes (edits.filter (· ≠ .applyDefaults)) ∧
      Prefilled (filled.afterEdits edits)
        (plain.afterEdits (edits.filter (· ≠ .applyDefaults))) := by
  induction edits generalizing filled plain with
  | nil => exact ⟨rfl, prefilled⟩
  | cons edit rest ih =>
      by_cases isDefaults : edit = .applyDefaults
      · subst isDefaults
        simpa [outcomes, afterEdits, Edit.apply, Edit.attempt] using ih prefilled.applyDefaults
      · obtain ⟨sameRefusal, next⟩ := prefilled.step isDefaults
        simpa [outcomes, afterEdits, isDefaults, sameRefusal] using ih next

/-- Once its own defaults are filled in, the plain form has the text of the prefilled
one in every field that a default slot fills. -/
theorem applyDefaults_text_eq (prefilled : Prefilled filled plain) {field : TextField}
    (settled : field = .sourceType ∨ field.group.shown plain.mode plain.auth = true) :
    filled.applyDefaults.text field = plain.applyDefaults.text field := by
  simp only [Form.applyDefaults, layout, prefilled.mode, prefilled.auth]
  rcases prefilled.text field with same | ⟨plainBlank, slot, rfl, isValue⟩
  · simp only [same]
  · have filledSlot : slot.filled plain.mode plain.auth = true := by
      rw [DefaultSlot.filled, Bool.or_eq_true]
      refine settled.imp (fun isSourceType => ?_) id
      cases slot <;> simp_all [DefaultSlot.field]
    simp only [Layout.default?_field filledSlot, plainBlank, isValue, if_true, ite_self]

/-- Building fills in the blanks, so a prefilled form builds what the plain one
builds. -/
theorem build_eq (prefilled : Prefilled filled plain) : filled.build = plain.build := by
  have alike : Alike filled.applyDefaults plain.applyDefaults :=
    { mode := prefilled.mode
      auth := fun _ => prefilled.auth
      scheduleEnabled := prefilled.scheduleEnabled
      sourceType := prefilled.applyDefaults_text_eq (.inl rfl)
      shown := fun field shows => prefilled.applyDefaults_text_eq <| .inr <| by
        rw [layout, Layout.resolve_shows] at shows
        rw [← prefilled.mode, ← prefilled.auth]
        exact shows }
  exact alike.assemble_eq

end Prefilled

/-- Leaving out every step that fills in defaults changes neither which operations of
a session are refused, and why, nor what the form builds at its end. -/
theorem outcomes_and_build_without_defaults (form : Form) (edits : List Edit) :
    (form.outcomes edits).filter (fun outcome => outcome.1 ≠ .applyDefaults) =
        form.outcomes (edits.filter (· ≠ .applyDefaults)) ∧
      (form.afterEdits edits).build =
        (form.afterEdits (edits.filter (· ≠ .applyDefaults))).build := by
  obtain ⟨sameOutcomes, prefilled⟩ := (Prefilled.refl form).run edits
  exact ⟨sameOutcomes, prefilled.build_eq⟩

end Form

end ConnectorConsole
