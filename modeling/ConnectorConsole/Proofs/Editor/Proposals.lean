import ConnectorConsole.Proofs.Editor.LocalFaults
import ConnectorConsole.Proofs.Editor.Rebuilding

/-!
# What a form proposes

A proposal goes out under the identifier that the operator gives, or under the name of the
form's draft when none is given.  The form is built when its draft goes along or lends its
name, and in no other case, so that a connector that is named can be deleted, paused or
resumed from any form.
-/

namespace ConnectorConsole

open Text

/-- The request that submits a proposal. -/
def Service.proposalRequest (service : Service) (request : ProposalRequest) : Request :=
  ⟨.post, service.base.endpoint ["v1", "studio", "connectors", "propose"],
    some request.toJson.compact⟩

namespace Form

/-- The name that a proposal of a form goes out under: the identifier without blanks around
it, or the name of the draft when nothing is left of the identifier or none is given. -/
inductive ProposedAs (form : Form) : Option String → String → Prop where
  | given {id : String} (named : trim id ≠ "") : ProposedAs form (some id) (trim id)
  | lent {connectorId : Option String} {draft : Draft}
      (unnamed : ∀ id ∈ connectorId, trim id = "") (built : form.build = .ok draft)
      (named : draft.name ≠ "") : ProposedAs form connectorId draft.name

/-- The draft that goes along with a proposal: that of the form for an action that carries
one, and none for any other. -/
def Carries (form : Form) (action : ProposalAction) (carried : Option Draft) : Prop :=
  if action.carriesDraft then ∃ draft, form.build = .ok draft ∧ carried = some draft
  else carried = none

variable {form : Form} {action : ProposalAction} {connectorId : Option String}

theorem draft_eq_ok_iff {draft : Draft} : form.draft = .ok draft ↔ form.build = .ok draft := by
  rw [Form.draft]
  cases form.build with
  | error problem => exact ⟨nofun, nofun⟩
  | ok built => simp [Except.mapError]

/-- Under an identifier that is given, the form is built only if the draft goes along. -/
theorem proposal_given {id : String} (named : trim id ≠ "") :
    form.proposal action (some id) =
      if action.carriesDraft then (fun draft => ⟨action, trim id, some draft⟩) <$> form.draft
      else .ok ⟨action, trim id, none⟩ := by
  have given : (some id).bind nonBlank? = some (trim id) := by
    rw [Option.bind_some, nonBlank?_eq, if_neg named]
  have effective (draft : Option Draft) :
      ProposalRequest.effectiveId (some id) draft = trim id := by
    rw [ProposalRequest.effectiveId, given]
    rfl
  rw [proposal, given]
  cases carries : action.carriesDraft with
  | false =>
      change ProposalRequest.make action (some id) none = _
      simp [ProposalRequest.make, effective, named, carries]
  | true =>
      change (some <$> form.draft) >>= ProposalRequest.make action (some id) = _
      cases form.draft with
      | error fault => rfl
      | ok draft =>
          change ProposalRequest.make action (some id) (some draft) = .ok _
          simp [ProposalRequest.make, effective, named, carries]

/-- Without an identifier the form is built in any case, and its draft lends the name. -/
theorem proposal_unnamed (unnamed : ∀ id ∈ connectorId, trim id = "") :
    form.proposal action connectorId = form.draft >>= fun draft =>
      if draft.name = "" then
        .error (.invalid "Proposal requires a connector id or a draft name")
      else .ok ⟨action, draft.name, if action.carriesDraft then some draft else none⟩ := by
  have missing : connectorId.bind nonBlank? = none := by
    cases connectorId with
    | none => rfl
    | some id => rw [Option.bind_some, nonBlank?_eq, if_pos (unnamed id rfl)]
  rw [proposal, missing]
  simp only [Option.isSome_none, Bool.not_false, Bool.or_true, if_true]
  cases built : form.draft with
  | error fault => rfl
  | ok draft =>
      have trimmed : trim draft.name = draft.name :=
        trim_of_trimmed (draft_canonical (draft_eq_ok_iff.mp built)).1.name
      have effective : ProposalRequest.effectiveId connectorId (some draft) = draft.name := by
        rw [ProposalRequest.effectiveId, missing, Option.none_or, Option.map_some,
          Option.getD_some, trimmed]
      change ProposalRequest.make action connectorId (some draft) = _
      unfold ProposalRequest.make
      dsimp only
      rw [effective]
      cases action.carriesDraft <;> rfl

theorem proposedAs_given_iff {id name : String} (named : trim id ≠ "") :
    form.ProposedAs (some id) name ↔ name = trim id := by
  constructor
  · rintro (⟨_⟩ | ⟨unnamed, _, _⟩)
    · rfl
    · exact absurd (unnamed id rfl) named
  · rintro rfl
    exact .given named

theorem proposedAs_unnamed_iff (unnamed : ∀ id ∈ connectorId, trim id = "") {name : String} :
    form.ProposedAs connectorId name ↔
      ∃ draft, form.build = .ok draft ∧ draft.name ≠ "" ∧ name = draft.name := by
  constructor
  · rintro (⟨named⟩ | ⟨_, built, named⟩)
    · exact absurd (unnamed _ rfl) named
    · exact ⟨_, built, named, rfl⟩
  · rintro ⟨draft, built, named, rfl⟩
    exact .lent unnamed built named

theorem carries_iff_of_built {draft : Draft} (built : form.build = .ok draft)
    {carried : Option Draft} :
    form.Carries action carried ↔
      carried = if action.carriesDraft then some draft else none := by
  rw [Carries]
  split
  · constructor
    · rintro ⟨other, otherBuilt, rfl⟩
      rw [built] at otherBuilt
      cases otherBuilt
      rfl
    · exact fun isDraft => ⟨draft, built, isDraft⟩
  · exact Iff.rfl

/-- A form proposes something exactly when there is a name to propose it under and, for an
action that carries one, a draft. -/
theorem proposal_eq_ok_iff {request : ProposalRequest} :
    form.proposal action connectorId = .ok request ↔
      request.action = action ∧ form.ProposedAs connectorId request.connectorId ∧
        form.Carries action request.draft := by
  obtain ⟨requested, name, carried⟩ := request
  dsimp only
  by_cases unnamed : ∀ id ∈ connectorId, trim id = ""
  · rw [proposal_unnamed unnamed, proposedAs_unnamed_iff unnamed]
    constructor
    · intro proposed
      obtain ⟨draft, drafted, made⟩ := ok_of_bind proposed
      have built := draft_eq_ok_iff.mp drafted
      by_cases nameless : draft.name = ""
      · rw [if_pos nameless] at made
        cases made
      · rw [if_neg nameless] at made
        cases made
        exact ⟨rfl, ⟨draft, built, nameless, rfl⟩, (carries_iff_of_built built).mpr rfl⟩
    · rintro ⟨rfl, ⟨draft, built, named, rfl⟩, carries⟩
      rw [draft_eq_ok_iff.mpr built, (carries_iff_of_built built).mp carries]
      exact if_neg named
  · push Not at unnamed
    obtain ⟨id, rfl, named⟩ := unnamed
    rw [proposal_given named, proposedAs_given_iff named, Carries]
    split
    · constructor
      · intro proposed
        cases drafted : form.draft with
        | error fault =>
            rw [drafted] at proposed
            cases proposed
        | ok draft =>
            rw [drafted] at proposed
            cases proposed
            exact ⟨rfl, rfl, draft, draft_eq_ok_iff.mp drafted, rfl⟩
      · rintro ⟨rfl, rfl, draft, built, rfl⟩
        rw [draft_eq_ok_iff.mpr built]
        rfl
    · simp only [Except.ok.injEq, ProposalRequest.mk.injEq, eq_comm]

/-- What a form proposes is sent off in one request. -/
theorem propose_eq {request : ProposalRequest}
    (proposed : form.proposal action connectorId = .ok request) (service : Service) :
    form.propose service action connectorId =
      .ask (service.proposalRequest request) fun delivery =>
        .done (panelFor Panel.ofBody
          (Call.answer service.reader (service.proposalRequest request) delivery)) := by
  rw [propose, proposed]
  exact panelOf_send Panel.ofBody service.reader (service.proposalRequest request)

theorem propose_refused {fault : Fault} (refused : form.proposal action connectorId = .error fault)
    (service : Service) :
    form.propose service action connectorId = .done (.ofFault fault) := by
  rw [propose, refused]
  rfl

/-- The requests that come of submitting a form: one for what it proposes, if it proposes
anything. -/
theorem requests_propose {σ : Type} (serve : Request → σ → Delivery × σ) (state : σ)
    (service : Service) :
    ((form.propose service action connectorId).run serve state).2.1 =
      match form.proposal action connectorId with
      | .ok request => [service.proposalRequest request]
      | .error _ => [] := by
  cases proposed : form.proposal action connectorId with
  | error fault =>
      rw [propose_refused proposed]
      rfl
  | ok request =>
      rw [propose_eq proposed, Exchange.run_ask]
      rfl

theorem requests_ne_nil_iff {σ : Type} (serve : Request → σ → Delivery × σ) (state : σ)
    (service : Service) :
    ((form.propose service action connectorId).run serve state).2.1 ≠ [] ↔
      ∃ request, form.proposal action connectorId = .ok request := by
  rw [requests_propose]
  cases form.proposal action connectorId <;> simp

theorem exists_carries_iff :
    (∃ carried, form.Carries action carried) ↔
      (action.carriesDraft = true → ∃ draft, form.build = .ok draft) := by
  cases carries : action.carriesDraft <;> simp [Carries, carries]

theorem carriesDraft_iff : action.carriesDraft = true ↔
    action ∈ [ProposalAction.create, .edit, .clone] := by
  cases action <;> decide

/-- The entry for the draft in what is sent. -/
theorem Carries.entries {carried : Option Draft} (carries : form.Carries action carried) :
    let entries := (carried.map fun draft => ("draft", draft.toJson)).toList
    (action ∈ [ProposalAction.create, .edit, .clone] →
      ∃ draft, form.build = .ok draft ∧ entries = [("draft", draft.toJson)]) ∧
    (action ∉ [ProposalAction.create, .edit, .clone] → entries = []) := by
  rw [Carries] at carries
  split_ifs at carries with writes
  · obtain ⟨draft, built, rfl⟩ := carries
    exact ⟨fun _ => ⟨draft, built, rfl⟩, fun other => absurd (carriesDraft_iff.mp writes) other⟩
  · subst carries
    exact ⟨fun write => absurd (carriesDraft_iff.mpr write) writes, fun _ => rfl⟩

/-- Submitting sends something exactly when the draft that goes along or lends its name can be
built, and there is a name. -/
theorem sends_iff {σ : Type} (serve : Request → σ → Delivery × σ) (state : σ)
    (service : Service) :
    ((form.propose service action connectorId).run serve state).2.1 ≠ [] ↔
      (action ∈ [ProposalAction.create, .edit, .clone] ∨ (∀ id ∈ connectorId, trim id = "") →
        ∃ draft, form.build = .ok draft) ∧
      ∃ name, form.ProposedAs connectorId name := by
  rw [requests_ne_nil_iff]
  constructor
  · rintro ⟨request, proposed⟩
    obtain ⟨_, named, carries⟩ := proposal_eq_ok_iff.mp proposed
    refine ⟨?_, _, named⟩
    rintro (isWrite | unnamed)
    · exact exists_carries_iff.mp ⟨_, carries⟩ (carriesDraft_iff.mpr isWrite)
    · obtain ⟨draft, built, _⟩ := (proposedAs_unnamed_iff unnamed).mp named
      exact ⟨draft, built⟩
  · rintro ⟨builds, name, named⟩
    obtain ⟨carried, carries⟩ := exists_carries_iff.mpr fun isWrite =>
      builds (.inl (carriesDraft_iff.mp isWrite))
    exact ⟨⟨action, name, carried⟩, proposal_eq_ok_iff.mpr ⟨rfl, named, carries⟩⟩

/-- For every form, action and identifier, and whatever the service answers: submitting sends
something exactly when the draft that goes along or lends its name can be built, and there is
a name.  It is then one request, under that name, with the draft of the form for an action
that writes one and without a draft for any other.  A connector that is named can be deleted,
paused or resumed from any form. -/
theorem proposals_sent {σ : Type} (form : Form) (action : ProposalAction)
    (connectorId : Option String) (service : Service) (serve : Request → σ → Delivery × σ)
    (state : σ) :
    let requests := ((form.propose service action connectorId).run serve state).2.1
    let writes := action ∈ [ProposalAction.create, .edit, .clone]
    let unnamed := ∀ id ∈ connectorId, trim id = ""
    (requests ≠ [] ↔
      (writes ∨ unnamed → ∃ draft, form.build = .ok draft) ∧
        ∃ name, form.ProposedAs connectorId name) ∧
    (∀ request ∈ requests, requests = [request] ∧
      ∃ name carried, form.ProposedAs connectorId name ∧
        (writes → ∃ draft, form.build = .ok draft ∧ carried = [("draft", draft.toJson)]) ∧
        (¬writes → carried = []) ∧
        request = ⟨.post, service.base.endpoint ["v1", "studio", "connectors", "propose"],
          some (Json.object ([("action", .text (Named.name action)),
            ("connector_id", .text name)] ++ carried)).compact⟩) ∧
    (action ∈ [ProposalAction.delete, .pause, .resume] →
      ∀ id ∈ connectorId, trim id ≠ "" → requests ≠ []) := by
  intro requests writes unnamed
  have sends : requests ≠ [] ↔ _ := sends_iff serve state service
  refine ⟨sends, fun request sent => ?_, fun namesOnly id given named => sends.mpr ?_⟩
  · have isSent : requests = _ := requests_propose serve state service
    cases proposed : form.proposal action connectorId with
    | error fault =>
        rw [proposed] at isSent
        rw [show requests = [] from isSent] at sent
        cases sent
    | ok proposal =>
        rw [proposed] at isSent
        rw [show requests = [service.proposalRequest proposal] from isSent] at sent
        obtain rfl := List.mem_singleton.mp sent
        obtain ⟨same, named, carries⟩ := proposal_eq_ok_iff.mp proposed
        obtain ⟨ofWrite, ofOther⟩ := carries.entries
        exact ⟨isSent, proposal.connectorId, _, named, ofWrite, ofOther, by rw [← same]; rfl⟩
  · have noWrite : ¬writes := by
      revert namesOnly
      cases action <;> decide
    refine ⟨?_, trim id, ?_⟩
    · rintro (isWrite | noId)
      · exact absurd isWrite noWrite
      · exact absurd (noId id given) named
    · rw [Option.mem_def.mp given]
      exact .given named

end Form

end ConnectorConsole
