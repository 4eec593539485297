import ConnectorConsole.Ops.Controller
import ConnectorConsole.Ops.ScreenEncoding
import ConnectorConsole.Service.Calls
import ConnectorConsole.Terminal.Render

/-!
# One look at a screen

Fetching a screen once and printing it. There is no earlier screen to keep, so a
failed fetch is a fault and not a banner.
-/

namespace ConnectorConsole

namespace Controller

/-- How a screen is printed once. -/
inductive Printing where
  | text
  | json
deriving DecidableEq, Repr

def printed (printing : Printing) (location : String) (screen : Screen) : String :=
  match printing with
  | .json => screen.toJson.indented ++ "\n"
  | .text => "Location: " ++ location ++ "\n" ++ screen.render ++ "\n"

/-- Fetch a screen once from a source. The answer is what is printed, or the
fault of the fetch. -/
def fetchOnce (controller : Controller) (source : QueryState → Call OpsPayload)
    (printing : Printing) (now : Timestamp) : Exchange (Controller × Except Fault String) := do
  let (request, controller) := controller.poll
  let outcome ← (source request.state).run
  let (_, controller) := controller.complete request outcome now
  match outcome with
  | .error fault => return (controller, .error fault)
  | .ok _ =>
    let lines := (controller.screen.map (printed printing controller.location)).getD ""
    return (controller, .ok lines)

end Controller

end ConnectorConsole
