import ConnectorConsole.Editor.Layout
import ConnectorConsole.Fault

/-!
# The editor form

The form holds the raw text of every field as the operator typed it. Leaving a
mode empties the fields that only that mode has; switching the authentication
mode keeps the hidden fields, so that switching back restores them.
-/

namespace ConnectorConsole

/-- The raw state of the editor. -/
structure Form where
  mode : Mode
  auth : AuthMode
  scheduleEnabled : Bool
  text : TextField → String

namespace Form

def empty : Form where
  mode := .sqlPull
  auth := .staticBearer
  scheduleEnabled := true
  text _ := ""

def setText (form : Form) (field : TextField) (value : String) : Form :=
  { form with text := fun other => if other = field then value else form.text other }

def layout (form : Form) : Layout :=
  Layout.resolve form.mode form.auth

/-- Whether a group is emptied on the way to a mode. -/
def leaves (mode : Mode) (group : FieldGroup) : Bool :=
  match group.owner? with
  | none => false
  | some owner => owner != mode

/-- Switch to a mode. Fields owned by other modes are emptied, and so is the
authentication mode; a source type that the mode does not offer gives way to the
first one that it does. -/
def setMode (form : Form) (mode : Mode) : Form :=
  { form with
    mode := mode
    auth := if leaves mode .restAuth then .staticBearer else form.auth
    text := fun field =>
      if field = .sourceType then
        if mode.sourceTypes.contains (form.text field) then form.text field
        else mode.firstSourceType
      else if leaves mode field.group then ""
      else form.text field }

def setAuth (form : Form) (auth : AuthMode) : Form :=
  { form with auth := auth }

def new (mode : Mode) : Form :=
  empty.setMode mode

/-- Fill every blank field for which the layout has a value. -/
def applyDefaults (form : Form) : Form :=
  { form with
    text := fun field =>
      match form.layout.default? field with
      | some value => if Text.blank (form.text field) then value else form.text field
      | none => form.text field }

def readSwitch? (text : String) : Option Bool :=
  let word := Text.lowerAscii (Text.trim text)
  if ["true", "yes", "1", "on"].contains word then some true
  else if ["false", "no", "0", "off"].contains word then some false
  else none

/-- Set what a key names to a text. The selectors and the switch are parsed, and
a text that they do not admit changes nothing. -/
def assign (form : Form) (key value : String) : Except Fault Form :=
  match EditorKey.ofKey? key with
  | none => .error (.invalid s!"Unknown draft field '{key}'")
  | some (.field field) => .ok (form.setText field value)
  | some .mode =>
    match Named.read (Text.trim value) with
    | .ok mode => .ok (form.setMode mode)
    | .error complaint => .error (.invalid complaint)
  | some .auth =>
    match Named.read (Text.trim value) with
    | .ok auth => .ok (form.setAuth auth)
    | .error complaint => .error (.invalid complaint)
  | some .scheduleEnabled =>
    match readSwitch? value with
    | some enabled => .ok { form with scheduleEnabled := enabled }
    | none =>
      .error (.invalid s!"schedule.enabled must be true or false, got '{value}'")

end Form

end ConnectorConsole
