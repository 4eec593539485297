import ConnectorConsole.Editor.Submission
import ConnectorConsole.Proofs.Service.Exchanges

/-!
# Local faults mean that nothing was sent

A step of the editor either fails before it sends anything, with a fault that arises
locally, or sends one request and takes what comes back.  A fault therefore tells by its
class alone whether the service has heard of the step.
-/

namespace ConnectorConsole

open Fault (Among)

theorem ProposalRequest.among_make (action : ProposalAction) (connectorId : Option String)
    (draft : Option Draft) : Among true (ProposalRequest.make action connectorId draft) := by
  unfold make
  dsimp only
  split
  · exact .error rfl
  · split
    · split
      · exact .ok _
      · exact .error rfl
    · exact .ok _

/-- What ends with values that may be faults, and is done with one request at most: without
one it ends with a local fault, and after one with any other fault or with none. -/
inductive Exchange.Direct {α : Type} (failure : α → Option Fault) : Exchange α → Prop where
  | refused {value : α} {fault : Fault} (isFault : failure value = some fault)
      (isLocal : fault.isLocal = true) : Direct failure (.done value)
  | asked (request : Request) {ending : Delivery → α}
      (remote : ∀ delivery fault, failure (ending delivery) = some fault → fault.isLocal = false) :
      Direct failure (.ask request fun delivery => .done (ending delivery))

namespace Form

variable (form : Form) (service : Service)

theorem among_draft : Among true form.draft :=
  .mapError _ fun problem => by cases problem <;> rfl

theorem among_proposal (action : ProposalAction) (connectorId : Option String) :
    Among true (form.proposal action connectorId) := by
  have made (draft : Option Draft) := ProposalRequest.among_make action connectorId draft
  rw [proposal]
  split
  · refine Among.bind ?_ made
    exact form.among_draft.bind fun draft => .ok (some draft)
  · exact made none

/-- The panel for an answer. -/
def panelFor (present : ReplyBody → Panel) : Except Fault ReplyBody → Panel
  | .ok body => present body
  | .error fault => .ofFault fault

theorem panelOf_send (present : ReplyBody → Panel) (reader : BodyReader) (request : Request) :
    panelOf present (Call.send reader request) = .ask request fun delivery =>
      .done (panelFor present (Call.answer reader request delivery)) := by
  rw [panelOf, Call.run_send]
  refine congrArg (Exchange.ask request) (funext fun delivery => ?_)
  change (match Call.answer reader request delivery with
    | .ok body => (pure (present body) : Exchange Panel)
    | .error fault => pure (Panel.ofFault fault)) = _
  cases Call.answer reader request delivery <;> rfl

/-- A step that makes what it sends from the form, sends it and shows the answer. -/
theorem direct_panelOf {α : Type} {present : ReplyBody → Panel}
    (shown : ∀ body, (present body).failure = none) {made : Except Fault α}
    (isLocal : Among true made) (reader : BodyReader) (request : α → Request) :
    (panelOf present (do Call.send reader (request (← made)))).Direct Panel.failure := by
  cases made with
  | error fault =>
      have failed : (Panel.ofFault fault).failure = some fault := rfl
      exact .refused failed (isLocal fault rfl)
  | ok value =>
      have sent : panelOf present
            (do Call.send reader (request (← (Except.ok value : Except Fault α)))) =
          .ask (request value) fun delivery =>
            .done (panelFor present (Call.answer reader (request value) delivery)) :=
        panelOf_send present reader (request value)
      rw [sent]
      refine .asked _ fun delivery fault isFault => ?_
      cases answered : Call.answer reader (request value) delivery with
      | ok body =>
          rw [answered, panelFor, shown] at isFault
          cases isFault
      | error other =>
          rw [answered] at isFault
          cases isFault
          exact Call.among_answer _ _ _ _ answered

theorem direct_validate : (form.validate service).Direct Panel.failure := by
  refine direct_panelOf (fun body => ?_) form.among_draft _ _
  rw [ValidationOutcome.panel]
  split <;> rfl

theorem direct_preview : (form.preview service).Direct Panel.failure :=
  direct_panelOf (fun _ => rfl) form.among_draft _ _

theorem direct_propose (action : ProposalAction) (connectorId : Option String) :
    (form.propose service action connectorId).Direct Panel.failure :=
  direct_panelOf (fun _ => rfl) (form.among_proposal action connectorId) _ _

/-- The form of a stored draft that was asked for. -/
def opened (wizard : WizardMode) (stored : Except Fault Draft) : Except Fault Form :=
  stored.map fun draft => ofDraft (wizard.hydrate draft)

variable {wizard : WizardMode} {connectorId : Option String}

theorem run_load_stored (stored : wizard.loadsExisting = true) {id : String}
    (given : connectorId.bind Text.nonBlank? = some id) :
    (load service wizard connectorId).run =
      .ask (service.draftRequest id) fun delivery =>
        .done (opened wizard (service.deliveredDraft id delivery)) := by
  have asks : load service wizard connectorId =
      (do return ofDraft (wizard.hydrate (← service.fetchDraft id))) := by
    rw [load, if_pos stored, given]
  rw [asks, ExceptT.run_bind, Service.run_fetchDraft]
  refine congrArg (Exchange.ask (service.draftRequest id)) (funext fun delivery => ?_)
  change (Exchange.done (service.deliveredDraft id delivery)).bind _ = _
  cases service.deliveredDraft id delivery <;> rfl

theorem run_load_unnamed (stored : wizard.loadsExisting = true)
    (missing : connectorId.bind Text.nonBlank? = none) :
    (load service wizard connectorId).run = .done
      (.error (.invalid "A connector id is required to open an existing draft")) := by
  rw [load, if_pos stored, missing]
  rfl

theorem run_load_create :
    (load service (.propose .create) connectorId).run = .done (.ok empty.applyDefaults) :=
  rfl

/-- The fault that an outcome is. -/
def faultOf {α : Type} : Except Fault α → Option Fault
  | .ok _ => none
  | .error fault => some fault

theorem direct_load (stored : wizard.loadsExisting = true) :
    (load service wizard connectorId).run.Direct faultOf := by
  cases given : connectorId.bind Text.nonBlank? with
  | none =>
      rw [run_load_unnamed service stored given]
      exact .refused rfl rfl
  | some id =>
      rw [run_load_stored service stored given]
      refine .asked _ fun delivery fault isFault => ?_
      cases delivered : service.deliveredDraft id delivery with
      | ok draft =>
          rw [delivered] at isFault
          cases isFault
      | error other =>
          rw [delivered] at isFault
          cases isFault
          exact service.among_deliveredDraft id delivery _ delivered

end Form

/-- The fault of a step and the requests it sent: at most one request, none exactly when the
fault is a local one, and after a request only faults of the transport or the service. -/
structure FaultsApart (failure : Option Fault) (requests : List Request) : Prop where
  atMostOne : requests.length ≤ 1
  isLocal_iff : (∃ fault, failure = some fault ∧ fault.isLocal = true) ↔
    failure.isSome = true ∧ requests = []
  remote : ∀ fault, failure = some fault → requests ≠ [] →
    (∃ message, fault = .transport message) ∨ ∃ status message, fault = .service status message

namespace FaultsApart

theorem refused {fault : Fault} (isLocal : fault.isLocal = true) : FaultsApart (some fault) [] where
  atMostOne := Nat.zero_le _
  isLocal_iff := ⟨fun _ => ⟨rfl, rfl⟩, fun _ => ⟨fault, rfl, isLocal⟩⟩
  remote _ _ sent := absurd rfl sent

theorem opened : FaultsApart none [] where
  atMostOne := Nat.zero_le _
  isLocal_iff := by simp
  remote _ isFault := nomatch isFault

theorem asked {failure : Option Fault} (request : Request)
    (notLocal : ∀ fault, failure = some fault → fault.isLocal = false) :
    FaultsApart failure [request] where
  atMostOne := Nat.le_refl 1
  isLocal_iff := by
    constructor
    · rintro ⟨fault, isFault, isLocal⟩
      rw [notLocal fault isFault] at isLocal
      cases isLocal
    · rintro ⟨_, nothing⟩
      cases nothing
  remote fault isFault _ := by
    have kind := notLocal fault isFault
    cases fault with
    | transport message => exact .inl ⟨message, rfl⟩
    | service status message => exact .inr ⟨status, message, rfl⟩
    | unreadable message => cases kind
    | invalid message => cases kind

end FaultsApart

variable {σ : Type}

theorem Exchange.Direct.faultsApart {α : Type} {failure : α → Option Fault} {exchange : Exchange α}
    (direct : exchange.Direct failure) (serve : Request → σ → Delivery × σ) (state : σ) :
    let (value, requests, _) := exchange.run serve state
    FaultsApart (failure value) requests ∧ (failure value = none → requests ≠ []) := by
  cases direct with
  | @refused value fault isFault isLocal =>
      change FaultsApart (failure value) [] ∧ (failure value = none → [] ≠ [])
      rw [isFault]
      exact ⟨.refused isLocal, nofun⟩
  | @asked request ending remote =>
      exact ⟨.asked request (remote (serve request state).1), fun _ => List.cons_ne_nil _ _⟩

/-- For every form, every service and everything that it may deliver: the four steps of the
editor send one request at most, fail with a local fault exactly when they fail without
having sent one, and succeed without one only where a new form is opened. -/
theorem Form.local_faults_send_nothing (form : Form) (service : Service) (action : ProposalAction)
    (wizard : WizardMode) (connectorId : Option String) (serve : Request → σ → Delivery × σ)
    (state : σ) :
    (∀ step ∈ [form.validate service, form.preview service,
        form.propose service action connectorId],
      let (panel, requests, _) := step.run serve state
      FaultsApart panel.failure requests ∧ (panel.failure = none → requests ≠ [])) ∧
    let (loaded, requests, _) := (load service wizard connectorId).run.run serve state
    FaultsApart (faultOf loaded) requests ∧
      (faultOf loaded = none ∧ requests = [] ↔ wizard = .propose .create) := by
  constructor
  · intro step isStep
    simp only [List.mem_cons, List.not_mem_nil, or_false] at isStep
    rcases isStep with rfl | rfl | rfl
    · exact (form.direct_validate service).faultsApart serve state
    · exact (form.direct_preview service).faultsApart serve state
    · exact (form.direct_propose service action connectorId).faultsApart serve state
  · by_cases isNew : wizard = .propose .create
    · rw [isNew, run_load_create]
      exact ⟨.opened, fun _ => rfl, fun _ => ⟨rfl, rfl⟩⟩
    · have stored : wizard.loadsExisting = true := bne_iff_ne.mpr isNew
      have direct : (load service wizard connectorId).run.Direct faultOf :=
        direct_load service stored
      obtain ⟨apart, sends⟩ := direct.faultsApart serve state
      exact ⟨apart, fun ⟨succeeded, nothing⟩ => absurd nothing (sends succeeded),
        fun same => absurd same isNew⟩

end ConnectorConsole
