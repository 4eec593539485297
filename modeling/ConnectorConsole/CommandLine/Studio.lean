import ConnectorConsole.CommandLine.Invocation
import ConnectorConsole.Editor.Submission
import ConnectorConsole.Terminal.Render

/-!
# Authoring commands

Each command is an exchange with the service that ends with what is printed and
how the command went. A draft can be taken from a file in place of the catalog;
files are given by a function from paths to contents.
-/

namespace ConnectorConsole

/-- What a finished command has printed, and whether it failed. -/
structure Outcome where
  printed : String
  failure : Option Failure
deriving DecidableEq, Repr

namespace Outcome

/-- A command that printed a text and a line break and went well. -/
def line (text : String) : Outcome :=
  ⟨text ++ "\n", none⟩

/-- A command that failed and printed nothing. -/
def failed (failure : Failure) : Outcome :=
  ⟨"", some failure⟩

def exitStatus (outcome : Outcome) : Nat :=
  (outcome.failure.map Failure.exitStatus).getD 0

def told (outcome : Outcome) : String :=
  (outcome.failure.map Failure.told).getD ""

end Outcome

abbrev Files := String → Except FileProblem (List UInt8)

def StudioCommand.file? : StudioCommand → Option String
  | .validate arguments | .preview arguments | .propose arguments _ => arguments.file
  | _ => none

namespace Studio

/-- A call that may also fail on the way to the service. -/
abbrev Attempt := ExceptT Failure Exchange

def call {α : Type} (call : Call α) : Attempt α :=
  ExceptT.mk do
    match ← call.run with
    | .ok value => return .ok value
    | .error fault => return .error (.ofFault fault)

def readDraft (files : Files) (path : String) : Except Failure Draft := do
  let bytes ← (files path).mapError .file
  match Utf8.decode? bytes with
  | none => throw (.file .notText)
  | some text =>
    (Draft.decoder.ofText text).mapError fun failure =>
      .input s!"Draft file {path} is invalid: {failure.message}"

/-- The form with fields set in order. -/
def applyEdits (form : Form) (edits : List (String × String)) : Except Fault Form :=
  edits.foldlM (fun form (key, value) => form.assign key value) form

/-- The form that is opened and edited as the arguments say: first the draft or
the wizard, then the switch of the mode, then the fields. -/
def openForm (files : Files) (service : Service) (arguments : DraftArguments) : Attempt Form := do
  let form ← match arguments.file with
    | some path => do
      let draft ← readDraft files path
      pure (Form.ofDraft (arguments.wizard.hydrate draft))
    | none => call (Form.load service arguments.wizard arguments.connector)
  let form := match arguments.mode with
    | some mode => if mode = form.mode then form else form.setMode mode
    | none => form
  (applyEdits form arguments.edits).mapError Failure.ofFault

/-- The outcome that shows a panel after some lines. A panel that shows a fault
is not printed. -/
def display (lines : List String) (panel : Panel) : Outcome :=
  let before := String.join (lines.map fun line => line ++ "\n")
  match panel.failure with
  | some fault => ⟨before, some (.ofFault fault)⟩
  | none =>
    ⟨before ++ panel.text ++ "\n", if panel.isError then some .reported else none⟩

def verdictLines (panel : Panel) : List String :=
  match Json.read? panel.text with
  | none => []
  | some value =>
    ((ValidationOutcome.ofBody? (.json value)).map ValidationOutcome.messages).getD []

def outcomeOf {α : Type} (present : α → Outcome) (attempt : Attempt α) : Exchange Outcome := do
  match ← attempt.run with
  | .ok value => return present value
  | .error failure => return Outcome.failed failure

def withForm (files : Files) (service : Service) (arguments : DraftArguments)
    (use : Form → Exchange Panel) (lines : Panel → List String) : Exchange Outcome :=
  outcomeOf (fun panel => display (lines panel) panel) do
    let form ← openForm files service arguments
    use form

/-- Submit a proposal. A wizard that runs a connector has none and does not open
a form. A new connector goes by the name in its draft. -/
def propose (files : Files) (service : Service) (arguments : DraftArguments)
    (action : Option ProposalAction) : Exchange Outcome := do
  match action.or arguments.wizard.action? with
  | none =>
    match arguments.connector with
    | none =>
      return Outcome.failed (.input "--connector is required for the run wizard")
    | some id => return display [] (← service.runNowPanel id)
  | some action =>
    let connectorId := if action = .create then none else arguments.connector
    withForm files service arguments (fun form => form.propose service action connectorId)
      fun _ => []

def run (files : Files) (service : Service) : StudioCommand → Exchange Outcome
  | .catalog query json =>
    outcomeOf
      (fun page => Outcome.line (if json then page.toJson.indented else page.render))
      (call (service.fetchCatalog query))
  | .fields mode auth => return Outcome.line (Layout.resolve mode auth).render
  | .validate arguments =>
    withForm files service arguments (fun form => form.validate service) verdictLines
  | .preview arguments =>
    withForm files service arguments (fun form => form.preview service) fun _ => []
  | .propose arguments action => propose files service arguments action
  | .runNow id => return display [] (← service.runNowPanel id)

end Studio

end ConnectorConsole
