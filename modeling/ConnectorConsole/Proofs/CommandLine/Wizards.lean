import ConnectorConsole.CommandLine.Studio
import ConnectorConsole.Proofs.CommandLine.Words
import ConnectorConsole.Proofs.Editor.Proposals
import ConnectorConsole.Proofs.Service.Deliveries

/-!
# Wizards end to end

A wizard for a stored connector fetches the draft, takes it through the editor and submits a
proposal.  A draft that the editor keeps arrives unchanged, save for the name of a copy.
When no draft comes back, nothing is submitted and the command fails.
-/

namespace ConnectorConsole

open Text

namespace Draft

variable {draft : Draft}

theorem ordered_of_readable (readable : draft.spec.source.Readable) : draft.Ordered where
  payload payload isPayload := (readable.payload payload isPayload).ordered
  headers := readable.headers

theorem trimmed_copyName {name : String} (trimmed : Trimmed name) : Trimmed (name ++ "-copy") := by
  obtain ⟨head, _⟩ := trimmed
  rw [Trimmed, String.toList_append]
  constructor
  · cases chars : name.toList with
    | nil =>
        rintro _ ⟨⟩
        rfl
    | cons c rest =>
        rintro _ ⟨⟩
        exact head c (by rw [chars]; rfl)
  · intro c isLast
    have last : (name.toList ++ "-copy".toList).getLast? = some 'y' := by simp
    rw [Option.mem_def, last] at isLast
    cases isLast
    rfl

/-- A copy of a draft that the editor keeps is kept as well. -/
theorem Canonical.asCopy (canonical : draft.Canonical) : draft.asCopy.Canonical :=
  { canonical with name := trimmed_copyName canonical.name }

end Draft

namespace Form

/-- A draft that the editor keeps is submitted as it is, and its copy under the new name. -/
theorem build_hydrate {draft : Draft} (kept : (ofDraft draft).build = .ok draft)
    (floatFree : draft.spec.source.FloatFree) (wizard : WizardMode) :
    (ofDraft (wizard.hydrate draft)).build = .ok (wizard.hydrate draft) := by
  obtain ⟨canonical, readable⟩ := draft_canonical kept
  rw [WizardMode.hydrate]
  split_ifs
  · exact build_ofDraft canonical.asCopy readable floatFree
  · exact kept

theorem proposal_stored {form : Form} {draft : Draft} (built : form.build = .ok draft)
    (action : ProposalAction) {id : String} (named : blank id = false) :
    form.proposal action (some id) =
      .ok ⟨action, trim id, if action.carriesDraft then some draft else none⟩ := by
  rw [proposal_given (filled_trim named).1, draft_eq_ok_iff.mpr built]
  split <;> rfl

end Form

namespace Studio

variable (files : Files) (service : Service)

theorem run_openForm {wizard : WizardMode} (stored : wizard.loadsExisting = true) {id : String}
    (given : (some id).bind nonBlank? = some (trim id)) :
    (openForm files service ⟨wizard, some id, none, none, []⟩).run =
      .ask (service.draftRequest (trim id)) fun delivery =>
        .done ((Form.opened wizard (service.deliveredDraft (trim id) delivery)).mapError
          Failure.ofFault) := by
  have loads := Form.run_load_stored service stored given
  change ((Form.load service wizard (some id)).run.bind _).bind _ = _
  rw [loads]
  refine congrArg (Exchange.ask (service.draftRequest (trim id))) (funext fun delivery => ?_)
  dsimp only
  cases service.deliveredDraft (trim id) delivery <;> rfl

/-- What a command comes to when a form is opened for it, or not. -/
def submitted (action : ProposalAction) (id : String) : Except Fault Form → Exchange Outcome
  | .error fault => .done (Outcome.failed (.ofFault fault))
  | .ok form => (form.propose service action (some id)).bind fun panel => .done (display [] panel)

/-- A wizard for a stored connector asks for the draft, and submits if it gets one. -/
theorem run_ofWizard_stored {action : ProposalAction} (stored : action ≠ .create) {id : String}
    (named : blank id = false) :
    run files service (.ofWizard (.propose action) id) =
      .ask (service.draftRequest (trim id)) fun delivery =>
        submitted service action id
          (Form.opened (.propose action) (service.deliveredDraft (trim id) delivery)) := by
  have given : (some id).bind nonBlank? = some (trim id) := nonBlank?_of_not_blank named
  have loads : (WizardMode.propose action).loadsExisting = true :=
    bne_iff_ne.mpr fun same => stored (WizardMode.propose.inj same)
  have opens := run_openForm files service loads given
  have connector : (if action = .create then none else some id) = some id := if_neg stored
  change withForm files service ⟨.propose action, some id, none, none, []⟩
    (fun form => form.propose service action (if action = .create then none else some id))
    (fun _ => []) = _
  rw [connector]
  change ((openForm files service ⟨.propose action, some id, none, none, []⟩).run.bind _).bind _ = _
  rw [opens]
  refine congrArg (Exchange.ask (service.draftRequest (trim id))) (funext fun delivery => ?_)
  dsimp only
  cases service.deliveredDraft (trim id) delivery with
  | error fault => rfl
  | ok draft =>
      -- the command first lifts the panel into the outcome of the editor, and then shows it
      let form := Form.ofDraft ((WizardMode.propose action).hydrate draft)
      let lifted : Exchange (Except Failure Panel) :=
        (form.propose service action (some id)).bind fun panel => .done (.ok panel)
      change lifted.bind _ = _
      rw [Exchange.bind_assoc]
      rfl

/-- A new draft has no name to be submitted under. -/
theorem run_ofWizard_create (id : String) :
    run files service (.ofWizard (.propose .create) id) =
      .done (Outcome.failed (.input "Proposal requires a connector id or a draft name")) := by
  have unnamed : Form.empty.applyDefaults.proposal .create none =
      .error (.invalid "Proposal requires a connector id or a draft name") := by
    rfl
  have refused : Form.empty.applyDefaults.propose service .create none =
      .done (.ofFault (.invalid "Proposal requires a connector id or a draft name")) := by
    rw [Form.propose, unnamed]
    rfl
  have opens : (openForm files service ⟨.propose .create, some id, none, none, []⟩).run =
      .done (.ok Form.empty.applyDefaults) :=
    rfl
  change withForm files service ⟨.propose .create, some id, none, none, []⟩
    (fun form => form.propose service .create none) (fun _ => []) = _
  rw [withForm, outcomeOf, ExceptT.run_bind, opens]
  change (((Form.empty.applyDefaults.propose service .create none).bind _).bind _).bind _ = _
  rw [refused]
  rfl

theorem run_ofWizard_run (id : String) :
    run files service (.ofWizard .run id) =
      .ask ⟨.post, service.base.endpoint ["v1", "studio", "connectors", id, "run-now"], none⟩
        fun delivery => .done (display [] (Form.panelFor Panel.ofBody (Call.answer service.reader
          ⟨.post, service.base.endpoint ["v1", "studio", "connectors", id, "run-now"], none⟩
            delivery))) := by
  have runs := Form.panelOf_send Panel.ofBody service.reader
    ⟨.post, service.base.endpoint ["v1", "studio", "connectors", id, "run-now"], none⟩
  change (Form.panelOf Panel.ofBody (Call.send _ _)).bind _ = _
  rw [runs]
  rfl

section Served

variable {σ : Type} (serve : Request → σ → Delivery × σ) (state : σ)

/-- A stored draft that is held is submitted at once. -/
theorem requests_of_holds {action : ProposalAction} (stored : action ≠ .create) {id : String}
    (named : blank id = false) {draft : Draft} (kept : (Form.ofDraft draft).build = .ok draft)
    (floatFree : draft.spec.source.FloatFree)
    (holds : (serve (service.draftRequest (trim id)) state).1.Holds service.reader draft) :
    ((run files service (.ofWizard (.propose action) id)).run serve state).2.1 =
      [service.draftRequest (trim id),
        service.proposalRequest ⟨action, trim id, if action.carriesDraft then
          some ((WizardMode.propose action).hydrate draft) else none⟩] := by
  have delivered : service.deliveredDraft (trim id)
      (serve (service.draftRequest (trim id)) state).1 = .ok draft :=
    Service.deliveredDraft_eq_ok_iff.mpr holds
  have built := Form.build_hydrate kept floatFree (.propose action)
  have proposed := Form.propose_eq (Form.proposal_stored built action named) service
  rw [run_ofWizard_stored files service stored named, Exchange.run_ask]
  dsimp only
  rw [delivered, Form.opened, Except.map, submitted, proposed]
  rfl

/-- Without a draft nothing is submitted, and the command fails. -/
theorem fails_without_draft (action : ProposalAction) {id : String} (named : blank id = false)
    (missing : ∀ draft, ¬(serve (service.draftRequest (trim id)) state).1.Holds service.reader draft) :
    let (outcome, requests, _) :=
      (run files service (.ofWizard (.propose action) id)).run serve state
    (∀ request ∈ requests, request.method ≠ .post) ∧ outcome.failure.isSome = true := by
  by_cases isNew : action = .create
  · rw [isNew, run_ofWizard_create]
    exact ⟨List.forall_mem_nil _, rfl⟩
  · rw [run_ofWizard_stored files service isNew named, Exchange.run_ask]
    dsimp only
    cases delivered : service.deliveredDraft (trim id)
        (serve (service.draftRequest (trim id)) state).1 with
    | ok draft => exact absurd (Service.deliveredDraft_eq_ok_iff.mp delivered) (missing draft)
    | error fault =>
        have fetches : (service.draftRequest (trim id)).method ≠ .post := nofun
        exact ⟨List.forall_mem_singleton.mpr fetches, rfl⟩

end Served

/-- Every wizard for a connector that is named, with nothing else on the command line.  Editing
submits the stored draft as it is, cloning submits it under the name of a copy, and the
wizards that name the connector only submit no draft, each after the draft was fetched and in
one request.  Running sends its one request without a body.  Without a draft nothing is
submitted and the command fails. -/
theorem wizards_end_to_end {σ : Type} (files : Files) (service : Service)
    (serve : Request → σ → Delivery × σ) (state : σ) (id : String) (draft : Draft)
    (named : blank id = false) (kept : (Form.ofDraft draft).build = .ok draft)
    (floatFree : draft.spec.source.FloatFree)
    (shallow : (DraftEnvelope.mk draft).toJson.nesting ≤ Json.greatestDepth) :
    let carryOut wizard := (run files service (.ofWizard wizard id)).run serve state
    let fetch : Request :=
      ⟨.get, service.base.endpoint ["v1", "studio", "connectors", trim id], none⟩
    let post (body : List (String × Json)) : Request :=
      ⟨.post, service.base.endpoint ["v1", "studio", "connectors", "propose"],
        some (Json.object body).compact⟩
    let delivered := (serve fetch state).1
    (∀ wizard,
      Invocation.read ["studio", "propose", "--wizard", Named.name wizard, "--connector=" ++ id] =
        .ok (.ofWizard wizard id) ∧
      (CommandReading.shape id = .plain →
        Invocation.read ["studio", "propose", "--wizard", Named.name wizard, "--connector", id] =
          .ok (.ofWizard wizard id))) ∧
    (∀ (wire : WireReply) (spacing : Json.Spacing), (wire.reply service.reader).succeeded = true →
      (wire.reply service.reader).body =
        String.ofList (spacing.chars 0 (DraftEnvelope.mk draft).toJson) →
      (Delivery.reply wire).Carries service.reader (DraftEnvelope.mk draft).toJson) ∧
    (delivered.Carries service.reader (DraftEnvelope.mk draft).toJson →
      (carryOut (.propose .edit)).2.1 =
        [fetch, post [("action", .text "edit"), ("connector_id", .text (trim id)),
          ("draft", draft.toJson)]] ∧
      (carryOut (.propose .clone)).2.1 =
        [fetch, post [("action", .text "clone"), ("connector_id", .text (trim id)),
          ("draft", { draft with name := draft.name ++ "-copy" }.toJson)]] ∧
      ∀ action ∈ [ProposalAction.delete, .pause, .resume], (carryOut (.propose action)).2.1 =
        [fetch, post [("action", .text (Named.name action)), ("connector_id", .text (trim id))]]) ∧
    (carryOut .run).2.1 =
      [⟨.post, service.base.endpoint ["v1", "studio", "connectors", id, "run-now"], none⟩] ∧
    ((∀ stored, ¬delivered.Holds service.reader stored) → ∀ action,
      (∀ request ∈ (carryOut (.propose action)).2.1, request.method ≠ .post) ∧
        (carryOut (.propose action)).1.failure.isSome = true) := by
  intro carryOut fetch post delivered
  obtain ⟨_, readable⟩ := Form.draft_canonical kept
  -- the command line, the reply that carries a draft, the wizards on it, running, and failing
  refine ⟨fun wizard => ⟨Invocation.read_attached wizard id, Invocation.read_alone wizard id⟩,
    fun wire spacing succeeded body => ?_, fun carries => ?_, ?_, fun missing action => ?_⟩
  · have sized : (DraftEnvelope.mk draft).toJson.MachineSized :=
      DraftEnvelope.machineSized_toJson fun payload isPayload =>
        (readable.payload payload isPayload).sized
    exact Delivery.carries_of_chars spacing succeeded body
      (DraftEnvelope.floatFree_toJson floatFree) sized shallow
  · have holds : delivered.Holds service.reader draft := carries.holds (Draft.ordered_of_readable readable)
    have requests {action : ProposalAction} (stored : action ≠ .create) :=
      requests_of_holds files service serve state stored named kept floatFree holds
    refine ⟨requests (by decide), requests (by decide), fun action isAction => ?_⟩
    simp only [List.mem_cons, List.not_mem_nil, or_false] at isAction
    rcases isAction with rfl | rfl | rfl
    · exact requests (by decide)
    · exact requests (by decide)
    · exact requests (by decide)
  · change ((run files service (.ofWizard .run id)).run serve state).2.1 = _
    rw [run_ofWizard_run]
    rfl
  · exact fails_without_draft files service serve state action named missing

/-- A stored draft that is fetched and edited, and one that cannot be fetched. -/
theorem wizards_end_to_end_ticketPull :
    let service : Service :=
      ⟨⟨false, "", "", "localhost", some 8080, [], none, none⟩, Charset.bodyText⟩
    let body := Utf8.encode (DraftEnvelope.mk .ticketPull).toJson.compact
    let up (_ : Request) (_ : Unit) : Delivery × Unit := (.reply ⟨200, some "text/plain", body⟩, ())
    let down (_ : Request) (_ : Unit) : Delivery × Unit := (.broken, ())
    let edits := run (fun _ => .error .missing) service (.ofWizard (.propose .edit) " tickets ")
    (edits.run up ()).2.1 =
        [⟨.get, service.base.endpoint ["v1", "studio", "connectors", "tickets"], none⟩,
          ⟨.post, service.base.endpoint ["v1", "studio", "connectors", "propose"],
            some (Json.object [("action", .text "edit"), ("connector_id", .text "tickets"),
              ("draft", Draft.ticketPull.toJson)]).compact⟩] ∧
      (edits.run down ()).1.failure.isSome = true := by
  intro service body up down
  dsimp only
  have named : blank " tickets " = false := by decide
  have kept : (Form.ofDraft .ticketPull).build = .ok .ticketPull :=
    Form.build_ofDraft Form.ticketPull_canonical Form.ticketPull_readable Form.ticketPull_floatFree
  have shallow : (DraftEnvelope.mk .ticketPull).toJson.nesting ≤ Json.greatestDepth := by decide
  have trimmed : trim " tickets " = "tickets" := by decide
  have ends (serve : Request → Unit → Delivery × Unit) :=
    wizards_end_to_end (fun _ => .error .missing) service serve () " tickets " .ticketPull
      named kept Form.ticketPull_floatFree shallow
  dsimp only at ends
  rw [trimmed] at ends
  constructor
  · obtain ⟨_, written, submits, _⟩ := ends up
    have arrives : ((WireReply.mk 200 (some "text/plain") body).reply service.reader).body =
        (DraftEnvelope.mk .ticketPull).toJson.compact :=
      WireReply.body_of_compact rfl (by decide) (by decide)
    have carried := written ⟨200, some "text/plain", body⟩ .tight rfl arrives
    exact (submits carried).1
  · obtain ⟨_, _, _, _, fails⟩ := ends down
    refine (fails ?_ .edit).2
    rintro stored ⟨wire, _, ⟨⟩, _⟩

end Studio

end ConnectorConsole
