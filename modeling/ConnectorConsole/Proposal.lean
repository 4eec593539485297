import ConnectorConsole.Connector.Decoding
import ConnectorConsole.Fault

/-!
# Proposals

A change to the catalog is never made directly: the console proposes it under
one of six actions. Actions that write a definition carry the draft, the others
name the connector only. A wizard either leads up to a proposal or runs the
connector at once.
-/

namespace ConnectorConsole

/-- What a proposal asks the catalog to do with a connector. -/
inductive ProposalAction where
  | create
  | edit
  | clone
  | delete
  | pause
  | resume
deriving DecidableEq, Repr

instance : Named ProposalAction where
  all := [.create, .edit, .clone, .delete, .pause, .resume]
  name
    | .create => "create"
    | .edit => "edit"
    | .clone => "clone"
    | .delete => "delete"
    | .pause => "pause"
    | .resume => "resume"
  complaint text names := s!"Unknown proposal action '{text}'. Must be one of: {names}"

instance : LawfulNamed ProposalAction where
  ofName?_name value := by cases value <;> rfl
  name_ne_empty value := by cases value <;> decide
  trim_name value := by cases value <;> decide

/-- How the wizard was opened: to submit a proposal, or to run a connector. -/
inductive WizardMode where
  | propose (action : ProposalAction)
  | run
deriving DecidableEq, Repr

instance : Named WizardMode where
  all := (Named.all.map .propose) ++ [.run]
  name
    | .propose action => Named.name action
    | .run => "run"
  complaint text names := s!"Unknown wizard mode '{text}'. Must be one of: {names}"

/-- The value that a text names in any letter case and with blanks around it. A
complaint shows the text as it was given. -/
def Named.readLoosely {α : Type} [Named α] (text : String) : Except Fault α :=
  match Named.ofName? (Text.lowerAscii (Text.trim text)) with
  | some value => .ok value
  | none => .error (.invalid (Named.complaint α text (Named.listing α)))

namespace ProposalAction

/-- Actions that write a definition carry the draft. -/
def carriesDraft : ProposalAction → Bool
  | .create => true
  | .edit => true
  | .clone => true
  | _ => false

end ProposalAction

namespace WizardMode

def action? : WizardMode → Option ProposalAction
  | .propose action => some action
  | .run => none

/-- Every wizard but the one that creates starts from a stored draft. -/
def loadsExisting (wizard : WizardMode) : Bool :=
  wizard != .propose .create

/-- A stored draft made ready for the wizard: cloning edits a copy. -/
def hydrate (wizard : WizardMode) (draft : Draft) : Draft :=
  if wizard = .propose .clone then draft.asCopy else draft

end WizardMode

/-- A draft sent on its own, for validation or for a preview. -/
structure DraftEnvelope where
  draft : Draft
deriving BEq, Repr

namespace DraftEnvelope

def toJson (envelope : DraftEnvelope) : Json :=
  .object [("draft", envelope.draft.toJson)]

def decoder : Decoder DraftEnvelope :=
  .record "DraftEnvelope" (DraftEnvelope.mk <$> .required "draft" Draft.decoder)

end DraftEnvelope

/-- A change proposed to the catalog. -/
structure ProposalRequest where
  action : ProposalAction
  connectorId : String
  draft : Option Draft
deriving BEq, Repr

namespace ProposalRequest

/-- The written form of a request. Without a draft it has no entry for one. -/
def toJson (request : ProposalRequest) : Json :=
  .object <|
    [("action", .text (Named.name request.action)),
     ("connector_id", .text request.connectorId)] ++
    (request.draft.map fun draft => ("draft", draft.toJson)).toList

def decoder : Decoder ProposalRequest :=
  .record "ProposalRequest" <|
    ProposalRequest.mk
      <$> .required "action" (.byName ProposalAction)
      <*> .required "connector_id" .text
      <*> .optional "draft" Draft.decoder

/-- The identifier that a proposal goes out under: the one given, or the name of
the draft when none is given. -/
def effectiveId (connectorId : Option String) (draft : Option Draft) : String :=
  ((connectorId.bind Text.nonBlank?).or (draft.map fun draft => Text.trim draft.name)).getD ""

/-- The request for an action. The draft goes along only with actions that carry
one, and those need one. -/
def make (action : ProposalAction) (connectorId : Option String) (draft : Option Draft) :
    Except Fault ProposalRequest :=
  let id := effectiveId connectorId draft
  if id = "" then .error (.invalid "Proposal requires a connector id or a draft name")
  else if action.carriesDraft then
    match draft with
    | some draft => .ok ⟨action, id, some draft⟩
    | none => .error (.invalid s!"Proposal action '{Named.name action}' requires a draft")
  else .ok ⟨action, id, none⟩

end ProposalRequest

end ConnectorConsole
