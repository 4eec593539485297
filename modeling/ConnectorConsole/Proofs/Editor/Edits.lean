import ConnectorConsole.Editor.Form

/-!
# Editing sessions

An editing session is a list of operations on a form.  Only an assignment can be
refused, and whether it is refused depends on its key and its text, not on the
form.  A refused operation leaves the form as it was.
-/

namespace ConnectorConsole

/-- One operation of the editor. -/
inductive Edit where
  | assign (key value : String)
  | setMode (mode : Mode)
  | setAuth (auth : AuthMode)
  | applyDefaults
deriving DecidableEq, Repr

namespace Edit

/-- The form that an operation asks for, or the reason to refuse it. -/
def attempt (form : Form) : Edit → Except Fault Form
  | .assign key value => form.assign key value
  | .setMode mode => .ok (form.setMode mode)
  | .setAuth auth => .ok (form.setAuth auth)
  | .applyDefaults => .ok form.applyDefaults

/-- The form after an operation. -/
def apply (form : Form) (edit : Edit) : Form :=
  match edit.attempt form with
  | .ok next => next
  | .error _ => form

/-- Why an operation is refused, if it is. -/
def refusal? (form : Form) (edit : Edit) : Option Fault :=
  match edit.attempt form with
  | .ok _ => none
  | .error fault => some fault

end Edit

namespace Form

/-- The form after a session. -/
def afterEdits (form : Form) (edits : List Edit) : Form :=
  edits.foldl Edit.apply form

/-- The operations of a session, each with the reason why it was refused, if it
was. -/
def outcomes (form : Form) : List Edit → List (Edit × Option Fault)
  | [] => []
  | edit :: rest => (edit, edit.refusal? form) :: outcomes (edit.apply form) rest

/-- What an assignment does is settled by its key and its text: it is refused for
every form alike, or sets a text field, a selector or the switch in every form. -/
theorem assign_cases (key value : String) :
    (∃ fault, ∀ form : Form, form.assign key value = .error fault) ∨
    (∃ field, ∀ form : Form, form.assign key value = .ok (form.setText field value)) ∨
    (∃ mode, ∀ form : Form, form.assign key value = .ok (form.setMode mode)) ∨
    (∃ auth, ∀ form : Form, form.assign key value = .ok (form.setAuth auth)) ∨
    (∃ enabled, ∀ form : Form,
      form.assign key value = .ok { form with scheduleEnabled := enabled }) := by
  unfold assign
  cases EditorKey.ofKey? key with
  | none => exact .inl ⟨_, fun _ => rfl⟩
  | some named =>
      cases named with
      | field field => exact .inr (.inl ⟨field, fun _ => rfl⟩)
      | mode =>
          cases read : (Named.read (Text.trim value) : Except String Mode) with
          | ok mode => exact .inr (.inr (.inl ⟨mode, fun _ => rfl⟩))
          | error complaint => exact .inl ⟨.invalid complaint, fun _ => rfl⟩
      | auth =>
          cases read : (Named.read (Text.trim value) : Except String AuthMode) with
          | ok auth => exact .inr (.inr (.inr (.inl ⟨auth, fun _ => rfl⟩)))
          | error complaint => exact .inl ⟨.invalid complaint, fun _ => rfl⟩
      | scheduleEnabled =>
          cases readSwitch? value with
          | none => exact .inl ⟨_, fun _ => rfl⟩
          | some enabled => exact .inr (.inr (.inr (.inr ⟨enabled, fun _ => rfl⟩)))

end Form

end ConnectorConsole
