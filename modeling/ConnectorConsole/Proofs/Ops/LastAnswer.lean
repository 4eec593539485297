import ConnectorConsole.Proofs.Ops.History

/-!
# What a controller shows

The screen of a controller is made from the last answer that brought a payload and
was taken.  The banner belongs to the last answer that was taken at all: a failure
puts it up, a payload takes it down.  Neither a refresh, nor a change of the query
state, nor an answer that comes too late touches what is shown.
-/

namespace ConnectorConsole

namespace Controller

/-- The screen and the banner are those of the last answers taken. -/
structure Shows (history : History) (controller : Controller) : Prop where
  screen_of_none : history.applied = [] → controller.screen = none
  screen_of_applied : ∀ answer, history.applied.getLast? = some answer →
    ∃ payload, answer.outcome = .ok payload ∧
      controller.screen = some (payload.screen answer.now)
  banner_of_none : history.accepted = [] → controller.banner = none
  banner_of_applied : ∀ answer, history.accepted.getLast? = some (answer, .applied) →
    controller.banner = none
  banner_of_failed : ∀ answer, history.accepted.getLast? = some (answer, .failed) →
    ∃ fault, answer.outcome = .error fault ∧
      controller.banner = some ("Unable to refresh ops data: " ++ fault.message)

variable {history : History} {controller : Controller}

namespace Shows

theorem new (initial : QueryState) : Shows [] (Controller.new initial) := by
  constructor <;> simp [History.applied, History.accepted, Controller.new]

/-- A call that takes no answer leaves on show what is there. -/
theorem unanswered (shows : Shows history controller) {entry : HistoryEntry}
    (takesNone : entry.accepted? = none) {next : Controller}
    (sameScreen : next.screen = controller.screen)
    (sameBanner : next.banner = controller.banner) : Shows (history ++ [entry]) next := by
  have acceptedEq : History.accepted (history ++ [entry]) = history.accepted := by
    simp [takesNone]
  have appliedEq : History.applied (history ++ [entry]) = history.applied := by
    rw [History.applied, History.applied, acceptedEq]
  constructor <;> simp only [acceptedEq, appliedEq, sameScreen, sameBanner]
  case screen_of_none => exact shows.screen_of_none
  case screen_of_applied => exact shows.screen_of_applied
  case banner_of_none => exact shows.banner_of_none
  case banner_of_applied => exact shows.banner_of_applied
  case banner_of_failed => exact shows.banner_of_failed

/-- A payload makes a new screen and takes the banner down, whatever was on show. -/
theorem apply {answer : OpsAnswer} {payload : OpsPayload}
    (served : answer.outcome = .ok payload) (accepted : Nat) :
    Shows (history ++ [.answered answer .applied])
      { controller with
        accepted := accepted, screen := some (payload.screen answer.now), banner := none } := by
  have acceptedEq : History.accepted (history ++ [.answered answer .applied]) =
      history.accepted ++ [(answer, .applied)] :=
    History.accepted_append _ _
  have appliedEq : History.applied (history ++ [.answered answer .applied]) =
      history.applied ++ [answer] :=
    History.applied_append _ _
  constructor <;> simp only [acceptedEq, appliedEq, List.getLast?_concat]
  case screen_of_applied =>
    rintro _ ⟨⟩
    exact ⟨payload, served, rfl⟩
  all_goals simp

/-- A failure keeps the screen and puts up a banner. -/
theorem fail (shows : Shows history controller) {answer : OpsAnswer} {fault : Fault}
    (failed : answer.outcome = .error fault) (accepted : Nat) :
    Shows (history ++ [.answered answer .failed])
      { controller with accepted := accepted, banner := some (failureBanner fault) } := by
  have acceptedEq : History.accepted (history ++ [.answered answer .failed]) =
      history.accepted ++ [(answer, .failed)] :=
    History.accepted_append _ _
  have appliedEq : History.applied (history ++ [.answered answer .failed]) =
      history.applied :=
    (History.applied_append _ _).trans (List.append_nil _)
  constructor <;> simp only [acceptedEq, appliedEq, List.getLast?_concat]
  case screen_of_none => exact shows.screen_of_none
  case screen_of_applied => exact shows.screen_of_applied
  case banner_of_failed =>
    rintro _ ⟨⟩
    exact ⟨fault, failed, rfl⟩
  all_goals simp

/-- Taking in an answer keeps on show what the last answers taken say. -/
theorem complete (shows : Shows history controller) (request : OpsRequest)
    (outcome : Except Fault OpsPayload) (now : Timestamp) :
    Shows
      (history ++ [.answered ⟨request, outcome, now⟩
        (controller.complete request outcome now).1])
      (controller.complete request outcome now).2 := by
  rcases controller.complete_cases request outcome now with
    ⟨_, answered⟩ | ⟨_, payload, served, answered⟩ | ⟨_, fault, failed, answered⟩
  · rw [answered]
    exact shows.unanswered rfl rfl rfl
  · rw [answered]
    exact Shows.apply served request.sequence
  · rw [answered]
    exact shows.fail failed request.sequence

end Shows

/-- Every run shows what the last answers taken say. -/
theorem Run.shows {initial : QueryState} (run : Run initial history controller) :
    Shows history controller := by
  induction run with
  | new => exact Shows.new initial
  | poll run shows => exact shows.unanswered rfl rfl rfl
  | transition run change shows => exact shows.unanswered rfl rfl rfl
  | complete run request issued outcome now shows => exact shows.complete request outcome now

end Controller

end ConnectorConsole
