import ConnectorConsole.Ops.Watch
import ConnectorConsole.Proofs.Ops.Fencing

/-!
# The polling loop

The polling loop is a watched screen together with the fetches under way.  A
request that the screen sends starts a fetch, and an answer ends one.  Ticks,
commands, answers and the end come in any order, but only to a loop that still
runs, and an answer only for a fetch under way.

One iteration makes at most one call of the controller.  `Watch.Iteration` lists
what it can do, and all that holds of every run is proved from that list.
-/

namespace ConnectorConsole

/-- The request that an effect sends. -/
def WatchEffect.sent? : WatchEffect → Option OpsRequest
  | .send request => some request
  | _ => none

/-- The location that an effect announces. -/
def WatchEffect.announced? : WatchEffect → Option String
  | .announce location => some location
  | _ => none

/-- The screen and the banner that an effect shows. -/
def WatchEffect.presented? : WatchEffect → Option (Option Screen × Option String)
  | .present screen banner => some (screen, banner)
  | _ => none

/-- The request that an event answers. -/
def WatchEvent.answered? : WatchEvent → Option OpsRequest
  | .answer request _ _ => some request
  | _ => none

namespace Watch

/-- The calls of the controller that an event leads to. -/
def calls (watch : Watch) (event : WatchEvent) : History :=
  if watch.running then
    match event with
    | .tick | .command .refresh => [.polled watch.controller.poll.1]
    | .command (.change change) =>
      if watch.controller.allows change then
        [.changed change (watch.controller.transition change).1]
      else []
    | .answer request outcome now =>
      [.answered ⟨request, outcome, now⟩ (watch.controller.complete request outcome now).1]
    | .command .quit | .stop => []
  else []

/-- What one iteration can do: the request that it answers, the calls that it
makes, their effects outside, and the controller afterwards. -/
inductive Iteration (controller : Controller) :
    Option OpsRequest → History → List WatchEffect → Controller → Prop where
  | refresh :
      Iteration controller none [.polled controller.poll.1] [.send controller.poll.1]
        controller.poll.2
  | change (change : Transition) (allowed : controller.allows change = true) :
      Iteration controller none [.changed change (controller.transition change).1]
        [.announce (controller.transition change).2.location,
          .send (controller.transition change).1]
        (controller.transition change).2
  | idle : Iteration controller none [] [] controller
  | drop (request : OpsRequest) (outcome : Except Fault OpsPayload) (now : Timestamp)
      (late : (controller.complete request outcome now).1 = .stale) :
      Iteration controller (some request) [.answered ⟨request, outcome, now⟩ .stale] []
        controller
  | take (request : OpsRequest) (outcome : Except Fault OpsPayload) (now : Timestamp)
      (inTime : (controller.complete request outcome now).1 ≠ .stale) :
      Iteration controller (some request)
        [.answered ⟨request, outcome, now⟩ (controller.complete request outcome now).1]
        [.present (controller.complete request outcome now).2.screen
          (controller.complete request outcome now).2.banner]
        (controller.complete request outcome now).2

/-- Every event does one of these things to a screen that is watched. -/
theorem iteration (watch : Watch) (running : watch.running = true) (event : WatchEvent) :
    Iteration watch.controller event.answered? (watch.calls event) (watch.step event).2
      (watch.step event).1.controller := by
  cases event with
  | tick => simpa [calls, step, running, WatchEvent.answered?, refresh] using .refresh
  | command command =>
      cases command with
      | refresh => simpa [calls, step, running, WatchEvent.answered?, refresh] using .refresh
      | change transition =>
          by_cases allowed : watch.controller.allows transition = true
          · simpa [calls, step, running, WatchEvent.answered?, change, allowed] using
              .change transition allowed
          · simpa [calls, step, running, WatchEvent.answered?, change, allowed] using .idle
      | quit => simpa [calls, step, running, WatchEvent.answered?] using .idle
  | answer request outcome now =>
      by_cases late : (watch.controller.complete request outcome now).1 = .stale
      · have answered := Controller.complete_of_stale late
        simpa [calls, step, running, WatchEvent.answered?, receive, answered] using
          .drop request outcome now late
      · simpa [calls, step, running, WatchEvent.answered?, receive, late] using
          .take request outcome now late
  | stop => simpa [calls, step, running, WatchEvent.answered?] using .idle

end Watch

/-- A watched screen and the fetches under way. -/
structure PollingLoop where
  watch : Watch
  /-- The requests that were sent and not answered yet. -/
  inFlight : List OpsRequest

namespace PollingLoop

/-- The loop before its first iteration. -/
def start (initial : QueryState) : PollingLoop :=
  ⟨(Watch.start (Controller.new initial)).1, []⟩

/-- The event can come next: the loop still runs, and an answer is that of a fetch
under way. -/
def Offers (loop : PollingLoop) (event : WatchEvent) : Prop :=
  loop.watch.running = true ∧ ∀ request, event.answered? = some request → request ∈ loop.inFlight

theorem offers_answer {loop : PollingLoop} (running : loop.watch.running = true)
    {request : OpsRequest} (underWay : request ∈ loop.inFlight)
    (outcome : Except Fault OpsPayload) (now : Timestamp) :
    loop.Offers (.answer request outcome now) :=
  ⟨running, fun _ answers => Option.some.inj answers ▸ underWay⟩

/-- One iteration.  An answer ends its fetch, and a request that is sent starts one. -/
def step (loop : PollingLoop) (event : WatchEvent) : PollingLoop where
  watch := (loop.watch.step event).1
  inFlight := event.answered?.elim loop.inFlight loop.inFlight.erase ++
    (loop.watch.step event).2.filterMap WatchEffect.sent?

/-- The runs of the loop that starts with a query state, with the calls of the
controller and the effects outside so far. -/
inductive Run (initial : QueryState) : History → List WatchEffect → PollingLoop → Prop where
  | start : Run initial [] (Watch.start (Controller.new initial)).2 (start initial)
  | step {history : History} {effects : List WatchEffect} {loop : PollingLoop}
      (run : Run initial history effects loop) (event : WatchEvent)
      (offers : loop.Offers event) :
      Run initial (history ++ loop.watch.calls event) (effects ++ (loop.watch.step event).2)
        (loop.step event)

/-- The fetches under way are those of the requests issued and not answered, each
once. -/
structure Outstanding (history : History) (inFlight : List OpsRequest) : Prop where
  distinct : inFlight.Nodup
  mem_iff : ∀ request, request ∈ inFlight ↔
    request ∈ history.issued ∧ request ∉ history.answered

variable {history : History} {inFlight : List OpsRequest} {controller next : Controller}

namespace Outstanding

theorem start : Outstanding [] [] := by
  constructor <;> simp [History.issued]

/-- A new request starts one more fetch. -/
theorem send (outstanding : Outstanding history inFlight) {entry : HistoryEntry}
    {request : OpsRequest} (issues : entry.issued? = some request)
    (answersNone : entry.answered? = none) (fresh : request ∉ history.issued)
    (answeredIssued : ∀ other ∈ history.answered, other ∈ history.issued) :
    Outstanding (history ++ [entry]) (inFlight ++ [request]) := by
  have notInFlight : request ∉ inFlight := fun member =>
    fresh ((outstanding.mem_iff request).mp member).1
  have notAnswered : request ∉ history.answered := fun answered =>
    fresh (answeredIssued request answered)
  refine ⟨?_, fun other => ?_⟩
  · refine List.nodup_append.mpr ⟨outstanding.distinct, List.nodup_singleton _, ?_⟩
    intro other member added isAdded same
    exact notInFlight (List.mem_singleton.mp isAdded ▸ same ▸ member)
  · rw [History.issued_concat, History.answered_concat, issues, answersNone]
    by_cases isNew : other = request
    · simp [isNew, notAnswered]
    · simp [isNew, outstanding.mem_iff other]

/-- An answer ends its fetch. -/
theorem settle (outstanding : Outstanding history inFlight) (answer : OpsAnswer)
    (completion : Completion) :
    Outstanding (history ++ [.answered answer completion])
      (inFlight.erase answer.request) := by
  refine ⟨outstanding.distinct.erase _, fun other => ?_⟩
  rw [outstanding.distinct.mem_erase_iff, outstanding.mem_iff, History.issued_concat,
    History.answered_concat]
  simp only [HistoryEntry.issued?, HistoryEntry.answered?, Option.toList_none,
    Option.toList_some, List.append_nil, List.mem_append, List.mem_singleton, not_or]
  tauto

end Outstanding

/-- One iteration prolongs the run of the controller. -/
theorem controller_run_of_iteration {initial : QueryState} {answered : Option OpsRequest}
    {calls : History} {effects : List WatchEffect}
    (iteration : Watch.Iteration controller answered calls effects next)
    (run : Controller.Run initial history controller)
    (issued : ∀ request, answered = some request → request ∈ history.issued) :
    Controller.Run initial (history ++ calls) next := by
  cases iteration with
  | refresh => exact run.poll
  | change change allowed => exact run.transition change
  | idle => rwa [List.append_nil]
  | drop request outcome now late =>
      have completed := run.complete request (issued request rfl) outcome now
      rwa [Controller.complete_of_stale late] at completed
  | take request outcome now inTime =>
      exact run.complete request (issued request rfl) outcome now

/-- One iteration keeps account of the fetches under way. -/
theorem outstanding_of_iteration {answered : Option OpsRequest} {calls : History}
    {effects : List WatchEffect}
    (iteration : Watch.Iteration controller answered calls effects next)
    (fenced : Controller.Fenced history controller)
    (outstanding : Outstanding history inFlight) :
    Outstanding (history ++ calls)
      (answered.elim inFlight inFlight.erase ++ effects.filterMap WatchEffect.sent?) := by
  cases iteration with
  | refresh =>
      exact outstanding.send rfl rfl (fenced.next_not_issued _ _) fenced.answered_issued
  | change change allowed =>
      exact outstanding.send rfl rfl (fenced.next_not_issued _ _) fenced.answered_issued
  | idle => simpa using outstanding
  | drop request outcome now late =>
      simpa using outstanding.settle ⟨request, outcome, now⟩ .stale
  | take request outcome now inTime =>
      change Outstanding _ (inFlight.erase request ++ [])
      rw [List.append_nil]
      exact outstanding.settle ⟨request, outcome, now⟩ _

/-- Every run of the loop makes a run of its controller, and keeps account of the
fetches under way. -/
theorem Run.controller_run_and_outstanding {initial : QueryState}
    {effects : List WatchEffect} {loop : PollingLoop} (run : Run initial history effects loop) :
    Controller.Run initial history loop.watch.controller ∧ Outstanding history loop.inFlight := by
  induction run with
  | start => exact ⟨.new, .start⟩
  | @step history effects loop run event offers ih =>
      obtain ⟨controllerRun, outstanding⟩ := ih
      have iteration := loop.watch.iteration offers.1 event
      exact ⟨controller_run_of_iteration iteration controllerRun fun request answers =>
          ((outstanding.mem_iff request).mp (offers.2 request answers)).1,
        outstanding_of_iteration iteration controllerRun.fenced outstanding⟩

end PollingLoop

end ConnectorConsole
