import ConnectorConsole.Ops.Command
import ConnectorConsole.Ops.Controller

/-!
# Watching a screen

A watched screen is driven by ticks, by commands of the operator and by answers
to its requests, in any order. No step waits for an answer; the controller
decides which answers are shown. Each step says what is to be done outside:
requests to send, locations to announce, screens to show.
-/

namespace ConnectorConsole

/-- What drives a watched screen. -/
inductive WatchEvent where
  | tick
  | command (command : Command)
  | answer (request : OpsRequest) (outcome : Except Fault OpsPayload) (now : Timestamp)
  /-- The operator's input or the whole program ends. -/
  | stop
deriving Inhabited

/-- What a watched screen has done outside. -/
inductive WatchEffect where
  | send (request : OpsRequest)
  | announce (location : String)
  | present (screen : Option Screen) (banner : Option String)
deriving DecidableEq, Repr

/-- A watched screen. -/
structure Watch where
  controller : Controller
  running : Bool
deriving DecidableEq, Repr

namespace Watch

def start (controller : Controller) : Watch × List WatchEffect :=
  (⟨controller, true⟩, [.announce controller.location])

def refresh (watch : Watch) : Watch × List WatchEffect :=
  let (request, controller) := watch.controller.poll
  ({ watch with controller }, [.send request])

def change (watch : Watch) (transition : Transition) : Watch × List WatchEffect :=
  if watch.controller.allows transition then
    let (request, controller) := watch.controller.transition transition
    ({ watch with controller }, [.announce controller.location, .send request])
  else (watch, [])

def receive (watch : Watch) (request : OpsRequest) (outcome : Except Fault OpsPayload)
    (now : Timestamp) : Watch × List WatchEffect :=
  let (completion, controller) := watch.controller.complete request outcome now
  ({ watch with controller },
    if completion = .stale then [] else [.present controller.screen controller.banner])

/-- One step. A screen that is no longer watched does nothing. -/
def step (watch : Watch) (event : WatchEvent) : Watch × List WatchEffect :=
  if watch.running then
    match event with
    | .tick => watch.refresh
    | .command .refresh => watch.refresh
    | .command (.change transition) => watch.change transition
    | .command .quit => ({ watch with running := false }, [])
    | .answer request outcome now => watch.receive request outcome now
    | .stop => ({ watch with running := false }, [])
  else (watch, [])

def run (watch : Watch) : List WatchEvent → Watch × List WatchEffect
  | [] => (watch, [])
  | event :: rest =>
    let (next, effects) := watch.step event
    let (last, more) := next.run rest
    (last, effects ++ more)

end Watch

end ConnectorConsole
