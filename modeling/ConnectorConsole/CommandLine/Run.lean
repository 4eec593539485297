import ConnectorConsole.CommandLine.Studio
import ConnectorConsole.Ops.Once

/-!
# Running commands

A command is prepared from its settings: the base address is checked, and a
command on operations gets its query state. What is prepared either runs to its
end or watches a screen.
-/

namespace ConnectorConsole

/-- A command that is ready to run. -/
inductive Prepared where
  | studio (service : Service) (command : StudioCommand)
  | once (service : Service) (state : QueryState) (printing : Controller.Printing)
  | watch (service : Service) (state : QueryState)

namespace Prepared

/-- The query state that a command on operations starts from. -/
def startState (settings : Settings) (command : OpsCommand) : QueryState :=
  QueryState.hydrate command.target command.query settings.limit

def ofCommand (settings : Settings) (command : ConsoleCommand) : Except Failure Prepared :=
  match Service.connect settings.baseUrl with
  | .error _ => .error (.setting settings.badBase)
  | .ok service =>
    match command with
    | .studio command => .ok (.studio service command)
    | .ops command =>
      let state := startState settings command
      if command.json then .ok (.once service state .json)
      else if command.once then .ok (.once service state .text)
      else .ok (.watch service state)

/-- Fetch a screen once and print it. The controller tells where it ended up. -/
def lookOnce (service : Service) (state : QueryState) (printing : Controller.Printing)
    (now : Timestamp) : Exchange (Controller × Outcome) := do
  let (controller, result) ← (Controller.new state).fetchOnce service.fetchOps printing now
  match result with
  | .ok lines => return (controller, ⟨lines, none⟩)
  | .error fault => return (controller, Outcome.failed (.ofFault fault))

/-- Run a command that comes to an end; watching does not. -/
def run? (files : Files) (now : Timestamp) : Prepared → Option (Exchange Outcome)
  | .studio service command => some (Studio.run files service command)
  | .once service state printing => some (Prod.snd <$> lookOnce service state printing now)
  | .watch _ _ => none

end Prepared

def Invocation.settings (invocation : Invocation) (lookup : String → Option String) :
    Except Failure Settings :=
  match Settings.ofVariables lookup with
  | .ok settings => .ok (settings.override invocation.overrides)
  | .error problem => .error (.setting problem)

end ConnectorConsole
