import ConnectorConsole.Connector.Names
import ConnectorConsole.Fault

/-!
# What an operations screen looks at

There are three screens: the whole fleet, one connector, one run. A target is
the screen together with the connector or run that it shows.
-/

namespace ConnectorConsole

/-- The operations screens. -/
inductive OpsView where
  | snapshot
  | connectorDetail
  | runDetail
deriving DecidableEq, Repr

instance : Named OpsView where
  all := [.snapshot, .connectorDetail, .runDetail]
  name
    | .snapshot => "snapshot"
    | .connectorDetail => "connector-detail"
    | .runDetail => "run-detail"
  complaint text names := s!"Unknown ops view '{text}'. Must be one of: {names}"

def OpsView.name (view : OpsView) : String := Named.name view

/-- The screen that a text names, with blanks around it allowed. -/
def OpsView.ofText (text : String) : Except Fault OpsView :=
  (Named.read (Text.trim text)).mapError .invalid

/-- What an operations screen shows. -/
inductive OpsTarget where
  | snapshot
  | connector (id : String)
  | run (id : String)
deriving DecidableEq, Repr

namespace OpsTarget

def view : OpsTarget → OpsView
  | .snapshot => .snapshot
  | .connector _ => .connectorDetail
  | .run _ => .runDetail

/-- The path segments under which the service answers for a target. -/
def segments : OpsTarget → List String
  | .snapshot => ["v1", "ops", "snapshot"]
  | .connector id => ["v1", "ops", "connectors", id]
  | .run id => ["v1", "ops", "runs", id]

def connectorPage (id : String) : String :=
  "/ops/connectors/" ++ id

def runPage (id : String) : String :=
  "/ops/runs/" ++ id

def page : OpsTarget → String
  | .snapshot => "/ops"
  | .connector id => connectorPage id
  | .run id => runPage id

end OpsTarget

end ConnectorConsole
