import ConnectorConsole.Ops.Watch
import ConnectorConsole.Terminal.Render

/-!
# A watched screen on a terminal

Every announcement and every screen is printed as a block of lines of its own.
-/

namespace ConnectorConsole

namespace WatchEffect

/-- What is printed for an effect. Sending a request prints nothing. -/
def printed : WatchEffect → String
  | .send _ => ""
  | .announce location => "Location: " ++ location ++ "\n"
  | .present screen banner =>
    let bannerPart := (banner.map fun text => "\n" ++ bannerLine text).getD ""
    let screenPart := (screen.map fun shown => "\n" ++ shown.render).getD ""
    "----" ++ bannerPart ++ screenPart ++ "\n"

end WatchEffect

end ConnectorConsole
