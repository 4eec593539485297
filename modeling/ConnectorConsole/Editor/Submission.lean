import ConnectorConsole.Editor.Build
import ConnectorConsole.Service.Calls
import ConnectorConsole.Service.Validation

/-!
# Submitting the editor

Loading a draft into the editor and sending the editor's draft off. A form that
does not build is answered at once and nothing is sent.
-/

namespace ConnectorConsole

namespace Form

/-- The draft of a form, or the fault that keeps it from being one. -/
def draft (form : Form) : Except Fault Draft :=
  form.build.mapError BuildProblem.fault

def panelOf (present : ReplyBody → Panel) (call : Call ReplyBody) : Exchange Panel := do
  match ← call.run with
  | .ok body => return present body
  | .error fault => return Panel.ofFault fault

/-- The form that a wizard starts from: an empty one, or that of a stored
draft. -/
def load (service : Service) (wizard : WizardMode) (connectorId : Option String) : Call Form := do
  if wizard.loadsExisting then
    match connectorId.bind Text.nonBlank? with
    | none =>
      throw (.invalid "A connector id is required to open an existing draft")
    | some id =>
      let draft ← service.fetchDraft id
      return ofDraft (wizard.hydrate draft)
  else return empty.applyDefaults

def validate (form : Form) (service : Service) : Exchange Panel :=
  panelOf ValidationOutcome.panel (do service.validate (← form.draft))

def preview (form : Form) (service : Service) : Exchange Panel :=
  panelOf Panel.ofBody (do service.preview (← form.draft))

/-- The proposal that a form makes. The form is built only when the draft goes
along or its name is needed. -/
def proposal (form : Form) (action : ProposalAction) (connectorId : Option String) :
    Except Fault ProposalRequest := do
  let given := (connectorId.bind Text.nonBlank?).isSome
  let draft ← if action.carriesDraft || !given then some <$> form.draft else pure none
  ProposalRequest.make action connectorId draft

def propose (form : Form) (service : Service) (action : ProposalAction)
    (connectorId : Option String) : Exchange Panel :=
  panelOf Panel.ofBody (do service.propose (← form.proposal action connectorId))

end Form

def Service.runNowPanel (service : Service) (id : String) : Exchange Panel :=
  Form.panelOf Panel.ofBody (service.runNow id)

end ConnectorConsole
