import ConnectorConsole.Proofs.CommandLine.FormCommands

/-!
# What a failed command prints

A command that fails leaves its output empty, unless it shows a verdict that it printed.
There is one exception: a validation looks for the lines of a verdict in whatever text it is
about to show, and so it prints the lines of a verdict even when the text is that of a
refusal.
-/

namespace ConnectorConsole

/-- An outcome that has printed nothing if it failed for another reason than what it printed. -/
def Outcome.Silent (outcome : Outcome) : Prop :=
  ∀ failure, outcome.failure = some failure → failure ≠ .reported → outcome.printed = ""

namespace Outcome

theorem silent_line (text : String) : (line text).Silent :=
  nofun

theorem silent_failed (failure : Failure) : (failed failure).Silent :=
  fun _ _ _ => rfl

/-- A panel that shows an answer is printed, and all that can fail is what it says. -/
theorem silent_answer (lines : List String) {panel : Panel} (isAnswer : panel.failure = none) :
    (Studio.display lines panel).Silent := by
  intro failure failed unreported
  rw [Studio.display_of_answer lines isAnswer] at failed
  cases isError : panel.isError with
  | false =>
      rw [isError] at failed
      cases failed
  | true =>
      rw [isError] at failed
      cases failed
      exact absurd rfl unreported

/-- A panel that is shown below no lines is printed unless it shows a fault. -/
theorem silent_display (panel : Panel) : (Studio.display [] panel).Silent := by
  cases isFault : panel.failure with
  | none => exact silent_answer [] isFault
  | some fault =>
      rw [Studio.display_of_fault [] isFault]
      exact silent_failed _

end Outcome

namespace Studio

open ValidationOutcome

variable (files : Files) (service : Service) {σ : Type} (serve : Request → σ → Delivery × σ)
  (state : σ)

theorem silent_outcomeOf {α : Type} {present : α → Outcome}
    (silent : ∀ value, (present value).Silent) (attempt : Attempt α) :
    ((outcomeOf present attempt).run serve state).1.Silent := by
  rw [outcomeOf_eq, Exchange.run_bind]
  rcases attempt.run.run serve state with ⟨result, asked, after⟩
  cases result with
  | ok value => exact silent value
  | error failure => exact Outcome.silent_failed failure

theorem silent_withForm (arguments : DraftArguments) (use : Form → Exchange Panel) :
    ((withForm files service arguments use fun _ => []).run serve state).1.Silent :=
  silent_outcomeOf serve state Outcome.silent_display _

theorem silent_runNow (id : String) :
    (((service.runNowPanel id).bind fun panel => .done (display [] panel)).run serve
      state).1.Silent := by
  rw [Exchange.run_bind]
  exact Outcome.silent_display _

theorem silent_propose (arguments : DraftArguments) (action : Option ProposalAction) :
    ((propose files service arguments action).run serve state).1.Silent := by
  rw [propose]
  split
  · split
    · exact Outcome.silent_failed _
    · exact silent_runNow service serve state _
  · exact silent_withForm files service serve state arguments _

/-- All commands but the validation are silent when they fail. -/
theorem silent_run {command : StudioCommand} (other : ∀ arguments, command ≠ .validate arguments) :
    ((run files service command).run serve state).1.Silent := by
  cases command with
  | catalog query json => exact silent_outcomeOf serve state (fun _ => Outcome.silent_line _) _
  | fields mode auth => exact Outcome.silent_line _
  | validate arguments => exact absurd rfl (other arguments)
  | preview arguments => exact silent_withForm files service serve state arguments _
  | propose arguments action => exact silent_propose files service serve state arguments action
  | runNow id => exact silent_runNow service serve state id

/-- A validation that is sent and refused with a text, where the text writes a value that has
the lines. -/
inductive RefusedWith (arguments : DraftArguments) : Fault → List String → Prop where
  | intro {form : Form} {draft : Draft} {asked : List Request} {after : σ} {wire : WireReply}
      {fault : Fault} {value : Json} {lines : List String}
      (opened :
        (openForm files service arguments).run.run serve state = (.ok form, asked, after))
      (built : form.build = .ok draft)
      (delivered : (serve (service.validationRequest draft) after).1 = .reply wire)
      (refused : (wire.reply service.reader).accept = .error fault)
      (isRead : Json.read fault.message = .ok value) (lists : Lists value lines) :
      RefusedWith arguments fault lines

variable {files service serve state}

theorem run_validate_of_refusal {arguments : DraftArguments} {fault : Fault} {lines : List String}
    (refused : RefusedWith files service serve state arguments fault lines) :
    ((run files service (.validate arguments)).run serve state).1 =
      ⟨String.join (lines.map (· ++ "\n")), some (.ofFault fault)⟩ := by
  obtain ⟨opened, built, delivered, refused, isRead, lists⟩ := refused
  have shown : verdictLines (.ofFault fault) = lines := verdictLines_of_read isRead lists
  rw [run_validate_of_build serve opened built]
  dsimp only
  rw [delivered, verdictPanel_of_refusal service _ refused, shown, display_of_fault _ rfl]

/-- A broken connection is told in a sentence. -/
theorem silent_broken (draft : Draft) :
    let panel := verdictPanel service draft .broken
    (display (verdictLines panel) panel).Silent := by
  have sentence : Text.Sentence (verdictPanel service draft .broken).text := by
    refine Text.Sentence.append (Text.Sentence.append ⟨'H', rfl, by decide⟩ _) _
  dsimp only
  rw [verdictLines_of_sentence sentence]
  exact Outcome.silent_display _

/-- A panel for a refusal prints nothing, unless the text of the refusal writes a value. -/
theorem silent_refusal {fault : Fault}
    (unread : ∀ value, Json.read fault.message ≠ .ok value) :
    (display (verdictLines (.ofFault fault)) (.ofFault fault)).Silent := by
  have nothing : verdictLines (.ofFault fault) = [] :=
    verdictLines_of_unflagged fun value isRead => absurd isRead (unread value)
  rw [nothing]
  exact Outcome.silent_display _

variable (files service serve state)

/-- A validation is silent when it fails, unless it is refused with a text that writes a
value. -/
theorem silent_validate (arguments : DraftArguments) :
    ((run files service (.validate arguments)).run serve state).1.Silent ∨
      ∃ fault lines, RefusedWith files service serve state arguments fault lines := by
  rcases opened : (openForm files service arguments).run.run serve state with
    ⟨failure | form, asked, after⟩
  · left
    rw [run, run_withForm_unopened _ _ serve opened]
    exact Outcome.silent_failed failure
  cases built : form.build with
  | error problem =>
      left
      rw [run_validate_of_problem serve opened built]
      exact Outcome.silent_failed _
  | ok draft =>
      rw [run_validate_of_build serve opened built]
      dsimp only
      cases delivered : (serve (service.validationRequest draft) after).1 with
      | broken => exact .inl (silent_broken draft)
      | reply wire =>
          cases answered : (wire.reply service.reader).accept with
          | ok body =>
              left
              rw [verdictPanel_of_body service draft answered]
              exact Outcome.silent_answer _ (ValidationOutcome.failure_panel body)
          | error fault =>
              by_cases isRead : ∃ value, Json.read fault.message = .ok value
              · obtain ⟨value, isRead⟩ := isRead
                obtain ⟨lines, lists⟩ := exists_lists value
                exact .inr ⟨fault, lines, opened, built, delivered, answered, isRead, lists⟩
              · left
                rw [verdictPanel_of_refusal service draft answered]
                exact silent_refusal (not_exists.mp isRead)

/-- For every command and whatever the service delivers: a command that fails for another
reason than a verdict that it printed has printed nothing, or it is a validation that was
refused with a text that writes a value.  Such a validation fails as the refusal does, and it
has printed the lines of that value, if it has any. -/
theorem failures_print_verdicts_only (command : StudioCommand) :
    let outcome := ((run files service command).run serve state).1
    (∀ failure, outcome.failure = some failure → failure ≠ .reported →
      outcome.printed = "" ∨
        ∃ arguments fault lines, command = .validate arguments ∧
          RefusedWith files service serve state arguments fault lines) ∧
    ∀ arguments fault lines, command = .validate arguments →
      RefusedWith files service serve state arguments fault lines →
      outcome = ⟨String.join (lines.map (· ++ "\n")), some (.ofFault fault)⟩ := by
  constructor
  · intro failure failed unreported
    by_cases isValidate : ∃ arguments, command = .validate arguments
    · obtain ⟨arguments, rfl⟩ := isValidate
      rcases silent_validate files service serve state arguments with
        silent | ⟨fault, lines, refused⟩
      · exact .inl (silent failure failed unreported)
      · exact .inr ⟨arguments, fault, lines, rfl, refused⟩
    · left
      exact silent_run files service serve state (not_exists.mp isValidate) failure failed
        unreported
  · rintro arguments fault lines rfl refused
    exact run_validate_of_refusal refused

/-- A new form whose validation does not reach the service. -/
theorem failures_print_verdicts_only_unreached :
    let service : Service :=
      ⟨⟨false, "", "", "localhost", some 8080, [], none, none⟩, Charset.bodyText⟩
    let serve (_ : Request) (_ : Unit) : Delivery × Unit := (.broken, ())
    let outcome := ((run (fun _ => .error .missing) service
      (.validate ⟨.propose .create, none, none, none, []⟩)).run serve ()).1
    ∃ message, outcome.failure = some (.network message) ∧ Failure.network message ≠ .reported ∧
      outcome.printed = "" := by
  intro service serve outcome
  obtain ⟨draft, built⟩ : ∃ draft, Form.empty.applyDefaults.build = .ok draft := ⟨_, rfl⟩
  have opened : (openForm (fun _ => .error .missing) service
      ⟨.propose .create, none, none, none, []⟩).run.run serve () =
        (.ok Form.empty.applyDefaults, [], ()) := rfl
  obtain ⟨message, shown⟩ : ∃ message,
    verdictPanel service draft .broken = .ofFault (.transport message) := ⟨_, rfl⟩
  have failed : outcome.failure = some (.network message) := by
    change Outcome.failure (Exchange.run _ _ _).1 = _
    rw [run_validate_of_build serve opened built]
    change Outcome.failure (display _ (verdictPanel service draft .broken)) = _
    rw [shown, display_of_fault _ rfl]
    rfl
  refine ⟨message, failed, nofun, ?_⟩
  obtain ⟨explained, _⟩ := failures_print_verdicts_only (fun _ => .error .missing) service serve ()
    (.validate ⟨.propose .create, none, none, none, []⟩)
  rcases explained _ failed nofun with silent | ⟨_, _, _, _, _, _, delivered, _⟩
  · exact silent
  · cases delivered

/-- A validation that is refused with a verdict prints the lines of the verdict. -/
theorem refusal_prints_verdict :
    let service : Service :=
      ⟨⟨false, "", "", "localhost", some 8080, [], none, none⟩, Charset.bodyText⟩
    let verdict : Json :=
      .object [("errors", .list [.text "name is taken"]), ("valid", .boolean false)]
    let wire : WireReply := ⟨422, some "application/json", Utf8.encode verdict.compact⟩
    let serve (_ : Request) (_ : Unit) : Delivery × Unit := (.reply wire, ())
    let outcome := ((run (fun _ => .error .missing) service
      (.validate ⟨.propose .create, none, none, none, []⟩)).run serve ()).1
    outcome.failure = some (.service 422 verdict.indented) ∧
      outcome.printed = "error: name is taken\n" := by
  intro service verdict wire serve outcome
  have floatFree : verdict.FloatFree := by simp [verdict, Json.FloatFree]
  have sized : verdict.MachineSized := by simp [verdict, Json.MachineSized]
  have announced : (wire.reply service.reader).Announces verdict :=
    WireReply.announces_compact rfl (by decide) floatFree sized (by decide)
  obtain ⟨draft, built⟩ : ∃ draft, Form.empty.applyDefaults.build = .ok draft := ⟨_, rfl⟩
  have decodes : decoder.ofJson verdict.sorted =
      .ok ⟨false, [.text "name is taken"], [], none⟩ := rfl
  have lists : Lists verdict.sorted ["error: name is taken"] := .verdict rfl decodes
  have refused : RefusedWith (fun _ => .error .missing) service serve ()
      ⟨.propose .create, none, none, none, []⟩ (.service 422 verdict.indented)
      ["error: name is taken"] :=
    .intro rfl built rfl (Reply.accept_explained rfl announced)
      (Json.read_indented floatFree sized (by decide)) lists
  have ends : outcome = ⟨_, _⟩ := run_validate_of_refusal refused
  rw [ends]
  exact ⟨rfl, rfl⟩

end Studio

end ConnectorConsole
