import ConnectorConsole.Ops.Screen

/-!
# The written form of screens

A screen can be handed to other programs as an object with the name of its view
first. A plain cell is written as its text, a link as an object of its own.
-/

namespace ConnectorConsole

open Json

def Link.toJson (link : Link) : Json :=
  .object [("text", .text link.text), ("href", .text link.address)]

def Cell.toJson : Cell → Json
  | .plain shown => .text shown
  | .link target => target.toJson

def StatusBadge.toJson (badge : StatusBadge) : Json :=
  .object [("label", .text badge.label), ("status", .text badge.status.name)]

def logsJson (links : List Link) : Json :=
  .list (links.map Link.toJson)

def Pager.toJson (pager : Pager) : Json :=
  .object
    [("label", .text pager.label),
     ("prev_enabled", .boolean pager.hasPrevious),
     ("next_enabled", .boolean pager.hasNext)]

def KeyFigures.toJson (figures : KeyFigures) : Json :=
  .object
    [("success_rate", .text figures.successRate),
     ("total_runs", .text figures.totalRuns),
     ("pending_batches", .text figures.pendingBatches),
     ("max_freshness", .text figures.greatestLag),
     ("generated", .text figures.generated)]

def ConnectorRow.toJson (row : ConnectorRow) : Json :=
  .object
    [("connector", row.connector.toJson),
     ("mode", .text row.mode),
     ("status", row.status.toJson),
     ("last_run", row.lastRun.toJson),
     ("freshness", .text row.freshness),
     ("pending_batches", .text row.pendingBatches)]

def FleetRunRow.toJson (row : FleetRunRow) : Json :=
  .object
    [("run", row.run.toJson),
     ("connector", row.connector.toJson),
     ("status", row.status.toJson),
     ("started", .text row.started),
     ("duration", .text row.duration),
     ("upserts", .text row.upserts),
     ("deletes", .text row.deletes),
     ("logs", logsJson row.logs)]

def ConnectorRunRow.toJson (row : ConnectorRunRow) : Json :=
  .object
    [("run", row.run.toJson),
     ("status", row.status.toJson),
     ("started", .text row.started),
     ("finished", .text row.finished),
     ("duration", .text row.duration),
     ("error_class", .text row.errorClass),
     ("logs", logsJson row.logs)]

def FleetScreen.entries (screen : FleetScreen) : List (String × Json) :=
  [("kpis", screen.figures.toJson),
   ("connectors", .list (screen.connectors.map ConnectorRow.toJson)),
   ("runs", .list (screen.runs.map FleetRunRow.toJson)),
   ("pager", screen.pager.toJson)]

def ConnectorScreen.entries (screen : ConnectorScreen) : List (String × Json) :=
  [("connector_id", .text screen.connectorId),
   ("mode", .text screen.mode),
   ("status", screen.status.toJson),
   ("freshness", .text screen.freshness),
   ("pending_batches", .text screen.pendingBatches),
   ("updated", .text screen.updated),
   ("runs", .list (screen.runs.map ConnectorRunRow.toJson)),
   ("pager", screen.pager.toJson)]

def RunScreen.entries (screen : RunScreen) : List (String × Json) :=
  [("run_id", .text screen.runId),
   ("status", screen.status.toJson),
   ("connector", .text screen.connector),
   ("duration", .text screen.duration),
   ("started", .text screen.started),
   ("finished", .text screen.finished),
   ("error_class", .text screen.errorClass),
   ("error_message", .text screen.errorMessage),
   ("mutation_counts", .text screen.mutations),
   ("splunk_url", ofText? screen.splunk),
   ("kestra_url", ofText? screen.kestra)]

namespace Screen

def view : Screen → OpsView
  | .fleet _ => .snapshot
  | .connector _ => .connectorDetail
  | .run _ => .runDetail

def entries : Screen → List (String × Json)
  | .fleet screen => screen.entries
  | .connector screen => screen.entries
  | .run screen => screen.entries

def toJson (screen : Screen) : Json :=
  .object (("view", .text screen.view.name) :: screen.entries)

end Screen

end ConnectorConsole
