import ConnectorConsole.CommandLine.Studio
import ConnectorConsole.Proofs.Editor.FaultTexts
import ConnectorConsole.Proofs.Editor.LocalFaults
import ConnectorConsole.Proofs.Service.Verdicts

/-!
# Commands that work on a form

A command on a draft first opens a form.  When that fails, the command fails with the same
failure and prints nothing; otherwise the form is used, and the panel that comes of it is
shown.  A panel that shows a fault is not printed, but the lines that its text lists are.
-/

namespace ConnectorConsole

open Text ValidationOutcome

namespace Studio

section Display

variable (lines : List String) {panel : Panel}

theorem display_of_fault {fault : Fault} (isFault : panel.failure = some fault) :
    display lines panel =
      ⟨String.join (lines.map (· ++ "\n")), some (.ofFault fault)⟩ := by
  rw [display, isFault]

/-- A panel that shows an answer is printed below the lines. -/
theorem display_of_answer (isAnswer : panel.failure = none) :
    display lines panel = ⟨String.join ((lines ++ [panel.text]).map (· ++ "\n")),
      if panel.isError then some .reported else none⟩ := by
  rw [display, isAnswer]
  simp [String.join_append, String.append_assoc]

end Display

section VerdictLines

variable {panel : Panel} {value : Json} {lines : List String}

/-- The text of a panel lists what the value that it writes lists. -/
theorem verdictLines_of_read (isRead : Json.read panel.text = .ok value)
    (lists : Lists value lines) : verdictLines panel = lines := by
  rw [verdictLines, Json.read?, isRead]
  exact lists.eq_messages

theorem verdictLines_of_unread {failure : ReadFailure}
    (unread : Json.read panel.text = .error failure) : verdictLines panel = [] := by
  rw [verdictLines, Json.read?, unread]
  rfl

/-- A text that writes no value with a flag lists nothing. -/
theorem verdictLines_of_unflagged
    (unflagged : ∀ value, Json.read panel.text = .ok value → value.get? "valid" = none) :
    verdictLines panel = [] := by
  cases isRead : Json.read panel.text with
  | error failure => exact verdictLines_of_unread isRead
  | ok value => exact verdictLines_of_read isRead (.unflagged (unflagged value isRead))

theorem get?_of_not_object (other : ∀ entries, value ≠ .object entries) (key : String) :
    value.get? key = none := by
  cases value with
  | object entries => exact absurd rfl (other entries)
  | _ => rfl

/-- A sentence lists nothing. -/
theorem verdictLines_of_sentence (sentence : Sentence panel.text) : verdictLines panel = [] :=
  verdictLines_of_unflagged fun _ isRead => get?_of_not_object (sentence.not_object isRead) "valid"

end VerdictLines

section Forms

variable (files : Files) (service : Service) (arguments : DraftArguments)
  (use : Form → Exchange Panel) (lines : Panel → List String)

theorem outcomeOf_eq {α : Type} (present : α → Outcome) (attempt : Attempt α) :
    outcomeOf present attempt = attempt.run.bind fun
      | .ok value => .done (present value)
      | .error failure => .done (Outcome.failed failure) := by
  refine congrArg (Exchange.bind attempt.run) (funext fun result => ?_)
  cases result <;> rfl

/-- A command on a form opens it, uses it and shows what comes of it. -/
theorem withForm_eq :
    withForm files service arguments use lines = (openForm files service arguments).run.bind fun
      | .ok form => (use form).bind fun panel => .done (display (lines panel) panel)
      | .error failure => .done (Outcome.failed failure) := by
  rw [withForm, outcomeOf_eq]
  change ((openForm files service arguments).run.bind _).bind _ = _
  rw [Exchange.bind_assoc]
  refine congrArg (Exchange.bind _) (funext fun opened => ?_)
  cases opened with
  | error failure => rfl
  | ok form =>
      -- the panel is lifted into an attempt that cannot fail, and then shown
      let lifted : Exchange (Except Failure Panel) := (use form).bind fun panel => .done (.ok panel)
      change lifted.bind _ = _
      rw [Exchange.bind_assoc]
      rfl

variable {files service arguments} {σ : Type} (serve : Request → σ → Delivery × σ)
  {state after : σ} {asked : List Request}

theorem run_withForm {form : Form}
    (opened : (openForm files service arguments).run.run serve state = (.ok form, asked, after)) :
    (withForm files service arguments use lines).run serve state =
      let (panel, more, last) := (use form).run serve after
      (display (lines panel) panel, asked ++ more, last) := by
  rw [withForm_eq, Exchange.run_bind, opened]
  dsimp only
  rw [Exchange.run_bind]
  simp only [Exchange.run, List.append_nil]

theorem run_withForm_unopened {failure : Failure}
    (unopened :
      (openForm files service arguments).run.run serve state = (.error failure, asked, after)) :
    (withForm files service arguments use lines).run serve state =
      (Outcome.failed failure, asked, after) := by
  rw [withForm_eq, Exchange.run_bind, unopened]
  simp only [Exchange.run, List.append_nil]

end Forms

end Studio

/-- The request that has a draft checked. -/
def Service.validationRequest (service : Service) (draft : Draft) : Request :=
  ⟨.post, service.base.endpoint ["v1", "studio", "connectors", "validate"],
    some (DraftEnvelope.mk draft).toJson.compact⟩

namespace Form

variable {form : Form} (service : Service)

/-- A form that builds is checked in one request. -/
theorem validate_of_build {draft : Draft} (built : form.build = .ok draft) :
    form.validate service = .ask (service.validationRequest draft) fun delivery =>
      .done (panelFor ValidationOutcome.panel
        (Call.answer service.reader (service.validationRequest draft) delivery)) := by
  rw [validate, Form.draft, built]
  exact panelOf_send ValidationOutcome.panel service.reader (service.validationRequest draft)

theorem validate_of_problem {problem : BuildProblem} (refused : form.build = .error problem) :
    form.validate service = .done (.ofFault problem.fault) := by
  rw [validate, Form.draft, refused]
  rfl

end Form

namespace Studio

/-- The panel for the delivery of a verdict on a draft. -/
def verdictPanel (service : Service) (draft : Draft) (delivery : Delivery) : Panel :=
  Form.panelFor ValidationOutcome.panel
    (Call.answer service.reader (service.validationRequest draft) delivery)

section Verdict

variable (service : Service) (draft : Draft) {wire : WireReply}

theorem verdictPanel_of_refusal {fault : Fault}
    (refusal : (wire.reply service.reader).accept = .error fault) :
    verdictPanel service draft (.reply wire) = .ofFault fault := by
  change Form.panelFor _ (wire.reply service.reader).accept = _
  rw [refusal]
  rfl

theorem verdictPanel_of_body {body : ReplyBody}
    (accepted : (wire.reply service.reader).accept = .ok body) :
    verdictPanel service draft (.reply wire) = ValidationOutcome.panel body := by
  change Form.panelFor _ (wire.reply service.reader).accept = _
  rw [accepted]
  rfl

end Verdict

section Validate

variable {files : Files} {service : Service} {arguments : DraftArguments} {form : Form} {σ : Type}
  (serve : Request → σ → Delivery × σ) {state after : σ} {asked : List Request}

/-- A form that builds is validated in one request, and the panel for its delivery is shown. -/
theorem run_validate_of_build
    (opened : (openForm files service arguments).run.run serve state = (.ok form, asked, after))
    {draft : Draft} (built : form.build = .ok draft) :
    (run files service (.validate arguments)).run serve state =
      let (delivery, last) := serve (service.validationRequest draft) after
      let panel := verdictPanel service draft delivery
      (display (verdictLines panel) panel, asked ++ [service.validationRequest draft], last) := by
  rw [run, run_withForm _ _ serve opened, Form.validate_of_build service built]
  rfl

/-- A form that does not build fails the command, and nothing is printed. -/
theorem run_validate_of_problem
    (opened : (openForm files service arguments).run.run serve state = (.ok form, asked, after))
    {problem : BuildProblem} (refused : form.build = .error problem) :
    (run files service (.validate arguments)).run serve state =
      (Outcome.failed (.ofFault problem.fault), asked, after) := by
  have silent : verdictLines (.ofFault problem.fault) = [] :=
    verdictLines_of_sentence (form.sentence_of_build refused)
  rw [run, run_withForm _ _ serve opened, Form.validate_of_problem service refused]
  have shown : display [] (.ofFault problem.fault) = Outcome.failed (.ofFault problem.fault) :=
    display_of_fault [] rfl
  simp only [Exchange.run, silent, List.append_nil, shown]

end Validate

end Studio

end ConnectorConsole
