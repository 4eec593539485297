import ConnectorConsole.Proofs.Editor.ModeSwitching

/-!
# Assignments in place

An assignment is a program over a form that is changed in place: a switch of modes empties
one group of fields after the other before it looks at the source type.  Whatever can be
refused is parsed before the first change, so that the program leaves behind the form that is
assigned, or the form that was there when it is refused.
-/

namespace ConnectorConsole

theorem FieldGroup.owner?_ne_restPush (group : FieldGroup) : group.owner? ≠ some .restPush := by
  cases group <;> decide

attribute [ext] Form

namespace Form

section Switch

variable (form : Form) (owner mode : Mode)

/-- The form with nothing left of what one mode has for itself, on the way to another. -/
def leaving : Form :=
  { form with
    auth := if mode ≠ owner ∧ owner = .restPull then .staticBearer else form.auth
    text := fun field => if mode ≠ owner ∧ field ∈ owner.ownFields then "" else form.text field }

/-- The form with a source type that a mode offers. -/
def offering : Form :=
  if form.text .sourceType ∈ mode.sourceTypes then form
  else form.setText .sourceType mode.firstSourceType

theorem offering_eq :
    form.offering mode =
      { form with
        text := fun field =>
          if field = .sourceType ∧ form.text .sourceType ∉ mode.sourceTypes then
            mode.firstSourceType
          else form.text field } := by
  rw [offering]
  split
  next offered => simp [offered]
  next foreign => simp [foreign, setText]

/-- Switching empties the groups one by one, and then looks at the source type. -/
theorem setMode_eq_offering :
    form.setMode mode =
      offering
        { ((form.leaving .sqlPull mode).leaving .restPull mode).leaving .filePull mode with
          mode := mode }
        mode := by
  rw [offering_eq]
  apply Form.ext
  case mode => rfl
  case auth => cases mode <;> rfl
  case scheduleEnabled => rfl
  case text =>
    funext field
    by_cases isSourceType : field = .sourceType
    · have shared : ∀ owner : Mode, TextField.sourceType ∉ owner.ownFields := by
        intro owner
        cases owner <;> decide
      simp [isSourceType, setMode, leaving, shared]
    · cases isOwner : field.group.owner? with
      | none => simp [isSourceType, setMode, leaving, leaves, Mode.mem_ownFields_iff, isOwner]
      | some owner =>
          -- the field is emptied on the way to any other mode than that of its group
          cases owner with
          | restPush => exact absurd isOwner field.group.owner?_ne_restPush
          | _ =>
              cases mode <;>
                simp [isSourceType, setMode, leaving, leaves, Mode.mem_ownFields_iff, isOwner]

end Switch

end Form

/-- Programs that change a form in place and may be refused. -/
abbrev InPlace (α : Type) : Type :=
  ExceptT Fault (StateM Form) α

namespace InPlace

/-- What a program answers for a form, and the form that it leaves behind. -/
def runOn {α : Type} (program : InPlace α) (form : Form) : Except Fault α × Form :=
  (ExceptT.run program).run form

/-- Empty the fields of the modes that are left, then switch, then look at the source type. -/
def switchTo (mode : Mode) : InPlace Unit := do
  for owner in [Mode.sqlPull, .restPull, .filePull] do
    modify fun form => form.leaving owner mode
  modify fun form => { form with mode := mode }
  modify fun form => form.offering mode

/-- Set what a key names to a text, or stop before anything is set. -/
def assign (key value : String) : InPlace Unit :=
  match EditorKey.ofKey? key with
  | none => throw (.invalid s!"Unknown draft field '{key}'")
  | some (.field field) => modify fun form => form.setText field value
  | some .mode => do
    switchTo (← liftM ((Named.read (Text.trim value)).mapError Fault.invalid))
  | some .auth => do
    let auth ← liftM ((Named.read (Text.trim value)).mapError Fault.invalid)
    modify fun form => form.setAuth auth
  | some .scheduleEnabled =>
    match Form.readSwitch? value with
    | some enabled => modify fun form => { form with scheduleEnabled := enabled }
    | none => throw (.invalid s!"schedule.enabled must be true or false, got '{value}'")

variable (form : Form)

theorem runOn_switchTo (mode : Mode) :
    (switchTo mode).runOn form = (.ok (), form.setMode mode) := by
  rw [form.setMode_eq_offering mode]
  rfl

/-- In place an assignment arrives at the form that is assigned, and a refused one is refused for
the same reason before anything has changed. -/
theorem runOn_assign (key value : String) :
    (assign key value).runOn form =
      match form.assign key value with
      | .ok next => (.ok (), next)
      | .error fault => (.error fault, form) := by
  rw [assign, Form.assign]
  cases EditorKey.ofKey? key with
  | none => rfl
  | some named =>
      cases named with
      | field field => rfl
      | mode =>
          cases (Named.read (Text.trim value) : Except String Mode) with
          | ok mode => exact runOn_switchTo form mode
          | error complaint => rfl
      | auth => cases (Named.read (Text.trim value) : Except String AuthMode) <;> rfl
      | scheduleEnabled => cases Form.readSwitch? value <;> rfl

end InPlace

end ConnectorConsole
