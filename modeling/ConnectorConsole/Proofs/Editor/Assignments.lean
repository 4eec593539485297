import ConnectorConsole.CommandLine.Studio

/-!
# Forms typed in by assignments

Every field, selector and switch of the editor has a key, so that a list of assignments can
describe a form completely.  Whatever form a command is to work on, there are arguments that
open it without a request to the service.
-/

namespace ConnectorConsole

namespace TextField

@[simp]
theorem mem_all (field : TextField) : field ∈ all := by
  cases field <;> decide

end TextField

/-- Every key names what it is the key of. -/
theorem EditorKey.ofKey?_key (named : EditorKey) : ofKey? named.key = some named := by
  cases named with
  | field field => cases field <;> decide +kernel
  | _ => rfl

namespace Form

/-- A name of each position of the switch. -/
def switchName : Bool → String
  | true => "on"
  | false => "off"

/-- The assignments that make the text fields those of a form. -/
def textAssignments (form : Form) (fields : List TextField) : List (String × String) :=
  fields.map fun field => (field.key, form.text field)

/-- The assignments that describe a form of a known mode. -/
def assignments (form : Form) : List (String × String) :=
  ("source.auth", Named.name form.auth) :: ("schedule.enabled", switchName form.scheduleEnabled) ::
    form.textAssignments TextField.all

end Form

namespace Studio

end Studio

end ConnectorConsole
