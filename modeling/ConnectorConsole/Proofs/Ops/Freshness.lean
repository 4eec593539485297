import ConnectorConsole.Proofs.Ops.LastAnswer
import ConnectorConsole.Proofs.Ops.PollingLoop

/-!
# No screen is silently stale

A transition leaves the old screen and the old banner standing until its request
is answered, and a failed fetch leaves the old screen standing for good.  Neither
goes unnoticed.  When no request of the current generation is under way, some
request of it was the last to be accepted, so that either its failure stands in the
banner or the screen was made from its payload.
-/

namespace ConnectorConsole

namespace Controller

variable {history : History} {controller : Controller}

/-- Once a current request is answered, the last request accepted is current. -/
theorem Fenced.last_accepted_current (fenced : Fenced history controller)
    {request : OpsRequest} (answered : request ∈ history.answered)
    (current : request.generation = controller.generation) :
    ∃ taken, history.accepted.getLast? = some taken ∧
      taken.1.request ∈ history.issued ∧
      taken.1.request.generation = controller.generation := by
  have issued := fenced.answered_issued request answered
  have reached := fenced.answered_le request answered current
  have begun := (fenced.sequence_bounds issued).1.trans_le reached
  obtain ⟨taken, last, _, takenIssued, isLast⟩ := fenced.last_accepted begun
  refine ⟨taken, last, takenIssued, ?_⟩
  exact fenced.current_of_newer issued current takenIssued (reached.trans_eq isLast.symm)

/-- Once a current request is answered, a controller without a banner shows the
payload of a current request. -/
theorem Run.screen_current {initial : QueryState} (run : Run initial history controller)
    {request : OpsRequest} (answered : request ∈ history.answered)
    (current : request.generation = controller.generation)
    (noBanner : controller.banner = none) :
    ∃ answer payload, .answered answer .applied ∈ history ∧
      answer.request.generation = controller.generation ∧
      answer.request.state = controller.state ∧
      answer.outcome = .ok payload ∧
      controller.screen = some (payload.screen answer.now) := by
  obtain ⟨⟨answer, completion⟩, last, issued, takenCurrent⟩ :=
    run.fenced.last_accepted_current answered current
  obtain ⟨entryMem, inTime⟩ := History.mem_accepted_iff.mp (List.mem_of_getLast? last)
  cases completion with
  | applied =>
      obtain ⟨payload, served, shown⟩ :=
        run.shows.screen_of_applied answer (History.applied_getLast? last)
      exact ⟨answer, payload, entryMem, takenCurrent,
        run.fenced.state_of_current _ issued takenCurrent, served, shown⟩
  | failed =>
      obtain ⟨fault, _, raised⟩ := run.shows.banner_of_failed answer last
      rw [noBanner] at raised
      contradiction
  | stale => contradiction

end Controller

namespace PollingLoop

/-- Once a request of the current generation was issued, and while none of them is
under way and no banner stands, there is a screen, and it was made from a payload
that was fetched for the current query state. -/
theorem Run.screen_fresh {initial : QueryState} {history : History}
    {effects : List WatchEffect} {loop : PollingLoop} (run : Run initial history effects loop)
    (asked : ∃ request ∈ history.issued,
      request.generation = loop.watch.controller.generation)
    (quiet : ∀ request ∈ loop.inFlight,
      request.generation ≠ loop.watch.controller.generation)
    (noBanner : loop.watch.controller.banner = none) :
    ∃ answer payload, .answered answer .applied ∈ history ∧
      answer.request.generation = loop.watch.controller.generation ∧
      answer.request.state = loop.watch.controller.state ∧
      answer.outcome = .ok payload ∧
      loop.watch.controller.screen = some (payload.screen answer.now) := by
  obtain ⟨controllerRun, outstanding⟩ := run.controller_run_and_outstanding
  obtain ⟨request, issued, current⟩ := asked
  have answered : request ∈ history.answered := by
    by_contra unanswered
    exact quiet request ((outstanding.mem_iff request).mpr ⟨issued, unanswered⟩) current
  exact controllerRun.screen_current answered current noBanner

/-- A refresh fails, the filters are reset, and the refresh of the new generation is
answered before the one under way: its payload is on show and the banner is gone. -/
theorem Run.screen_fresh_after_reset :
    let state := QueryState.fresh .snapshot 25
    let reset := state.apply .reset
    let failing : OpsRequest := ⟨1, 0, state⟩
    let older : OpsRequest := ⟨2, 0, state⟩
    let newer : OpsRequest := ⟨3, 1, reset⟩
    let midnight : Timestamp := ⟨0, 0, false, 0⟩
    let payload : OpsPayload := .snapshot ⟨.blank, [], [], none⟩
    let fault : Fault := .transport "request failed (502)"
    let history : History :=
      [.polled failing, .answered ⟨failing, .error fault, midnight⟩ .failed, .polled older,
        .changed .reset newer, .answered ⟨newer, .ok payload, midnight⟩ .applied]
    let loop : PollingLoop :=
      ⟨⟨⟨reset, 1, 3, 3, some (payload.screen midnight), none⟩, true⟩, [older]⟩
    (∃ effects, Run state history effects loop) ∧
      ∃ answer shown, .answered answer .applied ∈ history ∧
        answer.request.generation = 1 ∧ answer.request.state = reset ∧
        answer.outcome = .ok shown ∧
        some (payload.screen midnight) = some (shown.screen answer.now) := by
  intro state reset failing older newer midnight payload fault history loop
  have failed := (Run.start : Run state _ _ _).step .tick ⟨rfl, nofun⟩
    |>.step (.answer failing (.error fault) midnight)
      (offers_answer rfl (List.mem_singleton_self _) _ _)
  have changed := failed.step (.command .refresh) ⟨rfl, nofun⟩
    |>.step (.command (.change .reset)) ⟨rfl, nofun⟩
  have run : Run state history _ loop :=
    changed.step (.answer newer (.ok payload) midnight)
      (offers_answer rfl (List.mem_of_mem_tail (List.mem_singleton_self _)) _ _)
  have issued : history.issued = [failing, older, newer] := rfl
  have quiet : ∀ request ∈ loop.inFlight, request.generation ≠ 1 := by
    simp [loop, older]
  exact ⟨⟨_, run⟩, run.screen_fresh ⟨newer, by simp [issued], rfl⟩ quiet rfl⟩

end PollingLoop

end ConnectorConsole
