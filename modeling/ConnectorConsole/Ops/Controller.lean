import ConnectorConsole.Ops.Query
import ConnectorConsole.Ops.Screen

/-!
# The screen controller

The controller owns the query state of one operations screen and the last screen
that was made. Every fetch carries a number and the generation of the query
state that it was issued for. A transition begins a new generation. An answer
that belongs to an earlier generation, or that is no newer than one already
taken, is dropped; a failed fetch keeps the last good screen and sets a banner.
-/

namespace ConnectorConsole

/-- A fetch issued by the controller. -/
structure OpsRequest where
  sequence : Nat
  generation : Nat
  state : QueryState
deriving DecidableEq, Repr

/-- What becomes of an answer. -/
inductive Completion where
  /-- A new screen is shown and the banner is taken down. -/
  | applied
  /-- A banner is put up and the last screen stays. -/
  | failed
  /-- The answer comes too late to matter. -/
  | stale
deriving DecidableEq, Repr

/-- The owner of one operations screen. -/
structure Controller where
  state : QueryState
  generation : Nat
  /-- How many requests were issued. -/
  issued : Nat
  /-- The number of the newest request whose answer was taken; zero at first. -/
  accepted : Nat
  screen : Option Screen
  banner : Option String
deriving DecidableEq, Repr

namespace Controller

def new (state : QueryState) : Controller :=
  ⟨state, 0, 0, 0, none, none⟩

def location (controller : Controller) : String :=
  controller.state.location

def poll (controller : Controller) : OpsRequest × Controller :=
  let sequence := controller.issued + 1
  (⟨sequence, controller.generation, controller.state⟩, { controller with issued := sequence })

/-- Change the query state and issue a request for the new one. -/
def transition (controller : Controller) (change : Transition) : OpsRequest × Controller :=
  poll { controller with
    state := controller.state.apply change
    generation := controller.generation + 1 }

/-- Whether a transition is offered. Turning pages follows the last screen;
filters can always be changed. -/
def allows (controller : Controller) (change : Transition) : Bool :=
  let pager := controller.screen.bind Screen.pager?
  match change with
  | .previous => pager.any Pager.hasPrevious
  | .next => pager.any Pager.hasNext
  | .filter _ => true
  | .reset => true

def outdated (controller : Controller) (request : OpsRequest) : Bool :=
  request.generation != controller.generation || request.sequence ≤ controller.accepted

def failureBanner (fault : Fault) : String :=
  s!"Unable to refresh ops data: {fault.message}"

def complete (controller : Controller) (request : OpsRequest)
    (outcome : Except Fault OpsPayload) (now : Timestamp) : Completion × Controller :=
  if controller.outdated request then (.stale, controller)
  else
    let controller := { controller with accepted := request.sequence }
    match outcome with
    | .ok payload =>
      (.applied, { controller with screen := some (payload.screen now), banner := none })
    | .error fault => (.failed, { controller with banner := some (failureBanner fault) })

theorem outdated_iff {controller : Controller} {request : OpsRequest} :
    controller.outdated request = true ↔
      request.generation ≠ controller.generation ∨ request.sequence ≤ controller.accepted := by
  simp [outdated]

/-- What taking in an answer can do: drop it, show it, or put up a banner. -/
theorem complete_cases (controller : Controller) (request : OpsRequest)
    (outcome : Except Fault OpsPayload) (now : Timestamp) :
    (controller.outdated request = true ∧
        controller.complete request outcome now = (.stale, controller)) ∨
      (controller.outdated request = false ∧ ∃ payload, outcome = .ok payload ∧
        controller.complete request outcome now =
          (.applied, { controller with
            accepted := request.sequence, screen := some (payload.screen now), banner := none })) ∨
      (controller.outdated request = false ∧ ∃ fault, outcome = .error fault ∧
        controller.complete request outcome now =
          (.failed, { controller with
            accepted := request.sequence, banner := some (failureBanner fault) })) := by
  cases late : controller.outdated request with
  | true => exact .inl ⟨rfl, by simp [complete, late]⟩
  | false =>
    cases outcome with
    | ok payload => exact .inr (.inl ⟨rfl, payload, rfl, by simp [complete, late]⟩)
    | error fault => exact .inr (.inr ⟨rfl, fault, rfl, by simp [complete, late]⟩)

/-- An answer never changes what is asked for. -/
@[simp]
theorem complete_state (controller : Controller) (request : OpsRequest)
    (outcome : Except Fault OpsPayload) (now : Timestamp) :
    (controller.complete request outcome now).2.state = controller.state := by
  rcases controller.complete_cases request outcome now with
    ⟨_, answered⟩ | ⟨_, _, _, answered⟩ | ⟨_, _, _, answered⟩ <;> rw [answered]

@[simp]
theorem complete_generation (controller : Controller) (request : OpsRequest)
    (outcome : Except Fault OpsPayload) (now : Timestamp) :
    (controller.complete request outcome now).2.generation = controller.generation := by
  rcases controller.complete_cases request outcome now with
    ⟨_, answered⟩ | ⟨_, _, _, answered⟩ | ⟨_, _, _, answered⟩ <;> rw [answered]

@[simp]
theorem complete_issued (controller : Controller) (request : OpsRequest)
    (outcome : Except Fault OpsPayload) (now : Timestamp) :
    (controller.complete request outcome now).2.issued = controller.issued := by
  rcases controller.complete_cases request outcome now with
    ⟨_, answered⟩ | ⟨_, _, _, answered⟩ | ⟨_, _, _, answered⟩ <;> rw [answered]

/-- Only an answer that comes in time moves the newest number taken. -/
theorem complete_accepted (controller : Controller) (request : OpsRequest)
    (outcome : Except Fault OpsPayload) (now : Timestamp) :
    (controller.complete request outcome now).2.accepted =
      if controller.outdated request then controller.accepted else request.sequence := by
  rcases controller.complete_cases request outcome now with
    ⟨late, answered⟩ | ⟨late, _, _, answered⟩ | ⟨late, _, _, answered⟩ <;>
    simp [late, answered]

theorem complete_eq_stale_iff {controller : Controller} {request : OpsRequest}
    {outcome : Except Fault OpsPayload} {now : Timestamp} :
    (controller.complete request outcome now).1 = .stale ↔
      request.generation ≠ controller.generation ∨ request.sequence ≤ controller.accepted := by
  rw [← outdated_iff]
  rcases controller.complete_cases request outcome now with
    ⟨late, answered⟩ | ⟨late, _, _, answered⟩ | ⟨late, _, _, answered⟩ <;>
    simp [late, answered]

/-- An answer that is dropped leaves the controller as it was. -/
theorem complete_of_stale {controller : Controller} {request : OpsRequest}
    {outcome : Except Fault OpsPayload} {now : Timestamp}
    (late : (controller.complete request outcome now).1 = .stale) :
    controller.complete request outcome now = (.stale, controller) := by
  rcases controller.complete_cases request outcome now with
    ⟨_, answered⟩ | ⟨_, _, _, answered⟩ | ⟨_, _, _, answered⟩
  · exact answered
  · simp [answered] at late
  · simp [answered] at late

end Controller

end ConnectorConsole
