import ConnectorConsole.Proofs.Ops.LastAnswer
import ConnectorConsole.Proofs.Ops.PollingLoop

/-!
# The display mirrors the controller

The polling loop announces a location after a transition only and shows a screen
after an accepted answer only.  Nothing else changes the location, the screen or
the banner of its controller, so what was announced and shown last is what the
controller holds after every iteration.
-/

namespace ConnectorConsole

namespace PollingLoop

/-- The locations announced, in order. -/
def announcements (effects : List WatchEffect) : List String :=
  effects.filterMap WatchEffect.announced?

/-- The screens and banners shown, in order. -/
def presentations (effects : List WatchEffect) : List (Option Screen × Option String) :=
  effects.filterMap WatchEffect.presented?

theorem announcements_append (earlier later : List WatchEffect) :
    announcements (earlier ++ later) = announcements earlier ++ announcements later :=
  List.filterMap_append

theorem presentations_append (earlier later : List WatchEffect) :
    presentations (earlier ++ later) = presentations earlier ++ presentations later :=
  List.filterMap_append

variable {controller next : Controller} {answered : Option OpsRequest} {calls : History}
  {effects : List WatchEffect}

/-- An iteration announces the location if it changes it. -/
theorem announced_of_iteration
    (iteration : Watch.Iteration controller answered calls effects next) :
    (announcements effects).getLast?.getD controller.location = next.location := by
  cases iteration with
  | refresh => rfl
  | change change allowed => rfl
  | idle => rfl
  | drop request outcome now late => rfl
  | take request outcome now inTime =>
      rw [Controller.location, Controller.location, Controller.complete_state]
      rfl

/-- An iteration shows the screen and the banner if it changes one of them. -/
theorem presented_of_iteration
    (iteration : Watch.Iteration controller answered calls effects next) :
    (presentations effects).getLast?.getD (controller.screen, controller.banner) =
      (next.screen, next.banner) := by
  cases iteration <;> rfl

/-- An iteration shows the screen and the banner once for each answer that it
accepts, and never otherwise. -/
theorem presentations_of_iteration
    (iteration : Watch.Iteration controller answered calls effects next) :
    presentations effects = calls.accepted.map fun _ => (next.screen, next.banner) := by
  cases iteration with
  | refresh => rfl
  | change change allowed => rfl
  | idle => rfl
  | drop request outcome now late => rfl
  | take request outcome now inTime =>
      simp [presentations, WatchEffect.presented?, History.accepted, HistoryEntry.accepted?,
        inTime]

/-- The last location announced is that of the controller, the last screen and
banner shown are those of the controller, and as many were shown as answers were
accepted.  Before the first are shown there is neither screen nor banner. -/
structure Mirrors (history : History) (effects : List WatchEffect) (controller : Controller) :
    Prop where
  announced : (announcements effects).getLast? = some controller.location
  presented : (presentations effects).getLast?.getD (none, none) =
    (controller.screen, controller.banner)
  counted : (presentations effects).length = history.accepted.length

/-- One iteration keeps the display like the controller. -/
theorem Mirrors.iterate {history : History} {earlier : List WatchEffect}
    (mirrors : Mirrors history earlier controller)
    (iteration : Watch.Iteration controller answered calls effects next) :
    Mirrors (history ++ calls) (earlier ++ effects) next where
  announced := by
    rw [announcements_append, List.getLast?_append, mirrors.announced, Option.or_some,
      announced_of_iteration iteration]
  presented := by
    rw [presentations_append, List.getLast?_append, Option.getD_or, mirrors.presented,
      presented_of_iteration iteration]
  counted := by
    rw [presentations_append, List.length_append, mirrors.counted,
      presentations_of_iteration iteration, List.length_map, History.accepted_append,
      List.length_append]

/-- Every run of the loop keeps the display like the controller. -/
theorem Run.mirrors {initial : QueryState} {history : History} {loop : PollingLoop}
    (run : Run initial history effects loop) :
    Mirrors history effects loop.watch.controller := by
  induction run with
  | start => exact ⟨rfl, rfl, rfl⟩
  | step run event offers mirrors =>
      exact mirrors.iterate (Watch.iteration _ offers.1 event)

/-- After every iteration of the polling loop the last location announced is that of
the controller, and the last screen and banner shown are those of the controller.
They are shown once for each accepted answer, in the iteration that accepts it.
What is shown is what the last answers accepted say. -/
theorem Run.display_mirrors {initial : QueryState} {history : History} {loop : PollingLoop}
    (run : Run initial history effects loop) :
    (announcements effects).getLast? = some loop.watch.controller.location ∧
    (presentations effects).getLast?.getD (none, none) =
      (loop.watch.controller.screen, loop.watch.controller.banner) ∧
    (presentations effects).length = history.accepted.length ∧
    (∀ event, loop.Offers event →
      presentations (loop.watch.step event).2 =
        (loop.watch.calls event).accepted.map fun _ =>
          ((loop.step event).watch.controller.screen,
            (loop.step event).watch.controller.banner)) ∧
    loop.watch.controller.Shows history := by
  obtain ⟨announced, presented, counted⟩ := run.mirrors
  refine ⟨announced, presented, counted, fun event offers => ?_, ?_⟩
  · exact presentations_of_iteration (loop.watch.iteration offers.1 event)
  · exact run.controller_run_and_outstanding.1.shows

/-- A refresh that brings a payload, a transition that is not offered, and a refresh
that fails: the screen made from the payload is shown twice, the second time under
the banner. -/
theorem Run.display_mirrors_failed_refresh :
    let state := QueryState.fresh .snapshot 25
    let first : OpsRequest := ⟨1, 0, state⟩
    let second : OpsRequest := ⟨2, 0, state⟩
    let midnight : Timestamp := ⟨0, 0, false, 0⟩
    let payload : OpsPayload := .snapshot ⟨.blank, [], [], none⟩
    let fault : Fault := .transport "request failed (502)"
    let shown := some (payload.screen midnight)
    let raised := some (Controller.failureBanner fault)
    let history : History :=
      [.polled first, .answered ⟨first, .ok payload, midnight⟩ .applied, .polled second,
        .answered ⟨second, .error fault, midnight⟩ .failed]
    let effects : List WatchEffect :=
      [.announce state.location, .send first, .present shown none, .send second,
        .present shown raised]
    let loop : PollingLoop := ⟨⟨⟨state, 0, 2, 2, shown, raised⟩, true⟩, []⟩
    Run state history effects loop ∧
      (announcements effects).getLast? = some loop.watch.controller.location ∧
      (presentations effects).length = history.accepted.length ∧
      loop.watch.controller.Shows history := by
  intro state first second midnight payload fault shown raised history effects loop
  have fetched := (Run.start : Run state _ _ _).step .tick ⟨rfl, nofun⟩
    |>.step (.answer first (.ok payload) midnight)
      (offers_answer rfl (List.mem_singleton_self _) _ _)
  have refused := fetched.step (.command (.change .previous)) ⟨rfl, nofun⟩
  have run : Run state history effects loop :=
    refused.step .tick ⟨rfl, nofun⟩
      |>.step (.answer second (.error fault) midnight)
        (offers_answer rfl (List.mem_singleton_self _) _ _)
  obtain ⟨announced, _, counted, _, shows⟩ := run.display_mirrors
  exact ⟨run, announced, counted, shows⟩

end PollingLoop

end ConnectorConsole
