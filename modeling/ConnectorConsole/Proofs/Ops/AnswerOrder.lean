import ConnectorConsole.Proofs.Ops.Fencing
import Mathlib.Data.Finset.Dedup

/-!
# Answers in any order

Several requests may be under way at once, and their answers come in any order.
Which of them are taken depends on the order: those that are newer than all before
them.  What is shown in the end does not, because the newest request of the current
generation is always among those taken, and none is taken after it.
-/

namespace ConnectorConsole

namespace Controller

/-- The banner after an answer is taken. -/
def bannerAfter : Except Fault OpsPayload → Option String
  | .ok _ => none
  | .error fault => some (failureBanner fault)

/-- The controller after answers are taken in one after the other.  What the answer
to a request says, and when it is taken in, does not depend on the order. -/
def completeAll (outcome : OpsRequest → Except Fault OpsPayload)
    (now : OpsRequest → Timestamp) (controller : Controller) (order : List OpsRequest) :
    Controller :=
  order.foldl (fun current request =>
    (current.complete request (outcome request) (now request)).2) controller

variable (outcome : OpsRequest → Except Fault OpsPayload) (now : OpsRequest → Timestamp)
  {controller : Controller}

/-- Answers that all come too late change nothing. -/
theorem completeAll_eq_self {order : List OpsRequest}
    (late : ∀ request ∈ order, controller.outdated request = true) :
    controller.completeAll outcome now order = controller := by
  induction order with
  | nil => rfl
  | cons request rest ih =>
      obtain ⟨requestLate, restLate⟩ := List.forall_mem_cons.mp late
      rw [completeAll, List.foldl_cons, complete, if_pos requestLate]
      exact ih restLate

/-- What an answer leaves when it comes in time: the number of its request, its
banner and, if there is a payload, the screen made from it. -/
theorem complete_of_inTime {request : OpsRequest}
    (inTime : controller.outdated request = false) (outcome : Except Fault OpsPayload)
    (now : Timestamp) :
    (controller.complete request outcome now).2.accepted = request.sequence ∧
      (controller.complete request outcome now).2.banner = bannerAfter outcome ∧
      ∀ payload, outcome = .ok payload →
        (controller.complete request outcome now).2.screen = some (payload.screen now) := by
  cases outcome with
  | ok payload => simp [complete, inTime, bannerAfter]
  | error fault => simp [complete, inTime, bannerAfter]

/-- Once the newest current request is answered in time, the answers after it come
too late. -/
theorem completeAll_after_newest {newest : OpsRequest}
    (inTime : controller.outdated newest = false) {rest : List OpsRequest}
    (greatest : ∀ request ∈ rest, request.generation = controller.generation →
      request.sequence ≤ newest.sequence) :
    controller.completeAll outcome now (newest :: rest) =
      (controller.complete newest (outcome newest) (now newest)).2 := by
  rw [completeAll, List.foldl_cons]
  refine completeAll_eq_self outcome now fun request member => outdated_iff.mpr ?_
  rw [complete_generation, (complete_of_inTime inTime _ _).1]
  exact not_or_of_imp (greatest request member)

/-- In whatever order answers come, those to requests older than the newest current
one do not decide what is left. -/
theorem completeAll_of_newest {newest : OpsRequest}
    (current : newest.generation = controller.generation)
    (unseen : controller.accepted < newest.sequence) {order : List OpsRequest}
    (member : newest ∈ order)
    (greatest : ∀ request ∈ order, request.generation = controller.generation →
      request.sequence ≤ newest.sequence)
    (unique : ∀ request ∈ order, request.sequence = newest.sequence → request = newest) :
    (controller.completeAll outcome now order).accepted = newest.sequence ∧
      (controller.completeAll outcome now order).banner = bannerAfter (outcome newest) ∧
      ∀ payload, outcome newest = .ok payload →
        (controller.completeAll outcome now order).screen =
          some (payload.screen (now newest)) := by
  induction order generalizing controller with
  | nil => simp at member
  | cons request rest ih =>
      obtain ⟨requestGreatest, restGreatest⟩ := List.forall_mem_cons.mp greatest
      obtain ⟨requestUnique, restUnique⟩ := List.forall_mem_cons.mp unique
      by_cases isNewest : request = newest
      · subst isNewest
        have inTime : controller.outdated request = false := by
          rw [Bool.eq_false_iff, ne_eq, outdated_iff]
          omega
        rw [completeAll_after_newest outcome now inTime restGreatest]
        exact complete_of_inTime inTime _ _
      · have inRest : newest ∈ rest :=
          (List.mem_cons.mp member).resolve_left (Ne.symm isNewest)
        -- Taken or not, an older request leaves the newest one still to be taken.
        have stillUnseen :
            (controller.complete request (outcome request) (now request)).2.accepted <
              newest.sequence := by
          rw [complete_accepted]
          split
          · exact unseen
          · rename_i inTime
            rw [outdated_iff, not_or, not_not] at inTime
            exact lt_of_le_of_ne (requestGreatest inTime.1) (isNewest ∘ requestUnique)
        exact ih (by rw [complete_generation]; exact current) stillUnseen inRest
          (by rw [complete_generation]; exact restGreatest) restUnique

/-- However the answers to requests of a run are ordered, and however often each is
repeated, the newest request of the current generation decides the banner and, if
it brings a payload, the screen.  Two orders therefore end alike. -/
theorem Run.completeAll_converges {initial : QueryState} {history : History}
    (run : Run initial history controller)
    (requests : Finset OpsRequest) (issued : ∀ request ∈ requests, request ∈ history.issued)
    {newest : OpsRequest} (member : newest ∈ requests)
    (current : newest.generation = controller.generation)
    (greatest : ∀ request ∈ requests, request.generation = controller.generation →
      request.sequence ≤ newest.sequence)
    (unseen : controller.accepted < newest.sequence)
    {first second : List OpsRequest} (firstOrder : first.toFinset = requests)
    (secondOrder : second.toFinset = requests) :
    (controller.completeAll outcome now first).accepted = newest.sequence ∧
      (controller.completeAll outcome now second).accepted = newest.sequence ∧
      (controller.completeAll outcome now first).banner = bannerAfter (outcome newest) ∧
      (controller.completeAll outcome now second).banner = bannerAfter (outcome newest) ∧
      ∀ payload, outcome newest = .ok payload →
        (controller.completeAll outcome now first).screen =
            some (payload.screen (now newest)) ∧
          (controller.completeAll outcome now second).screen =
            some (payload.screen (now newest)) := by
  have decided {order : List OpsRequest} (sameRequests : order.toFinset = requests) :=
    completeAll_of_newest outcome now current unseen
      (List.mem_toFinset.mp (sameRequests ▸ member))
      (fun request inOrder => greatest request (sameRequests ▸ List.mem_toFinset.mpr inOrder))
      (fun request inOrder => run.fenced.eq_of_sequence_eq
        (issued request (sameRequests ▸ List.mem_toFinset.mpr inOrder)) (issued newest member))
  obtain ⟨firstAccepted, firstBanner, firstScreen⟩ := decided firstOrder
  obtain ⟨secondAccepted, secondBanner, secondScreen⟩ := decided secondOrder
  exact ⟨firstAccepted, secondAccepted, firstBanner, secondBanner, fun payload served =>
    ⟨firstScreen payload served, secondScreen payload served⟩⟩

/-- A refresh, the next page and a refresh of it: the refresh of the page decides,
whether its answer comes last or first. -/
theorem Run.completeAll_converges_last_or_first :
    let state := QueryState.fresh .snapshot 25
    let page := state.apply .next
    let older : OpsRequest := ⟨1, 0, state⟩
    let middle : OpsRequest := ⟨2, 1, page⟩
    let newest : OpsRequest := ⟨3, 1, page⟩
    let payload : OpsPayload := .snapshot ⟨.blank, [], [], none⟩
    let outcome : OpsRequest → Except Fault OpsPayload := fun request =>
      if request = newest then .ok payload else .error (.transport "request failed (502)")
    let now : OpsRequest → Timestamp := fun request => ⟨0, request.sequence, false, 0⟩
    let history : History := [.polled older, .changed .next middle, .polled newest]
    let controller : Controller := ⟨page, 1, 3, 0, none, none⟩
    Run state history controller ∧
      (controller.completeAll outcome now [older, middle, newest]).screen =
        some (payload.screen ⟨0, 3, false, 0⟩) ∧
      (controller.completeAll outcome now [newest, older, middle]).screen =
        some (payload.screen ⟨0, 3, false, 0⟩) := by
  intro state page older middle newest payload outcome now history controller
  have run : Run state history controller := .poll (.transition (.poll .new) .next)
  have issued : history.issued = [older, middle, newest] := rfl
  have served : outcome newest = .ok payload := if_pos rfl
  let requests := [older, middle, newest].toFinset
  have sameRequests : [newest, older, middle].toFinset = requests := by
    ext request
    simp only [requests, List.mem_toFinset, List.mem_cons]
    tauto
  have greatest : ∀ request ∈ requests, request.generation = 1 → request.sequence ≤ 3 := by
    simp [requests, older, middle, newest]
  have converges := run.completeAll_converges outcome now requests
    (by simp [requests, issued]) (List.mem_toFinset.mpr (by simp : newest ∈ _)) rfl greatest
    (by decide) rfl sameRequests
  exact ⟨run, converges.2.2.2.2 payload served⟩

end Controller

end ConnectorConsole
