import ConnectorConsole.Catalog
import ConnectorConsole.Editor.Layout
import ConnectorConsole.Ops.Screen
import ConnectorConsole.Terminal.Table

/-!
# Screens on a terminal

Screens, catalog pages and editor layouts as plain text. The texts inside are
laid out as they are; nothing is computed anew.
-/

namespace ConnectorConsole

def bannerLine (banner : String) : String :=
  "! " ++ banner

def Pager.render (pager : Pager) : String :=
  pager.label ++ (if pager.hasPrevious then "   [p] prev" else "") ++
    (if pager.hasNext then "   [n] next" else "")

def FleetScreen.render (screen : FleetScreen) : String :=
  let figures := screen.figures
  s!"Success rate: {figures.successRate}   Total runs: {figures.totalRuns}   " ++
    s!"Pending batches: {figures.pendingBatches}   " ++
    s!"Max freshness lag: {figures.greatestLag}\n{figures.generated}\n" ++
  "\nConnectors\n" ++
  Table.render ["CONNECTOR", "MODE", "STATUS", "LAST RUN", "FRESHNESS", "PENDING"]
    (screen.connectors.map fun row =>
      [row.connector.text, row.mode, row.status.label, row.lastRun.text, row.freshness,
       row.pendingBatches]) ++
  "\nRecent runs\n" ++
  Table.render
    ["RUN", "CONNECTOR", "STATUS", "STARTED", "DURATION", "UPSERTS", "DELETES", "LOGS"]
    (screen.runs.map fun row =>
      [row.run.text, row.connector.text, row.status.label, row.started, row.duration,
       row.upserts, row.deletes, logText row.logs]) ++
  screen.pager.render

def ConnectorScreen.render (screen : ConnectorScreen) : String :=
  s!"Connector {screen.connectorId}   Mode: {screen.mode}   Status: {screen.status.label}\n" ++
  s!"Freshness lag: {screen.freshness}   Pending batches: {screen.pendingBatches}\n" ++
  screen.updated ++ "\n\nRuns\n" ++
  Table.render ["RUN", "STATUS", "STARTED", "FINISHED", "DURATION", "ERROR", "LOGS"]
    (screen.runs.map fun row =>
      [row.run.text, row.status.label, row.started, row.finished, row.duration,
       row.errorClass, logText row.logs]) ++
  screen.pager.render

def namedText (name : String) (value : Option String) : List (String × String) :=
  (value.map fun value => (name, value)).toList

def RunScreen.render (screen : RunScreen) : String :=
  Table.keyValues <|
    [("Run", screen.runId),
     ("Status", screen.status.label),
     ("Connector", screen.connector),
     ("Duration", screen.duration),
     ("Started", screen.started),
     ("Finished", screen.finished),
     ("Error class", screen.errorClass),
     ("Error message", screen.errorMessage),
     ("Mutations", screen.mutations)] ++
    namedText "Splunk" screen.splunk ++ namedText "Kestra" screen.kestra

def Screen.render : Screen → String
  | .fleet screen => screen.render
  | .connector screen => screen.render
  | .run screen => screen.render

def wizardNote (rows : List CatalogRow) : String :=
  match rows with
  | [] => ""
  | row :: _ =>
    "\nActions per connector: " ++ Text.join ", " (row.wizards.map Named.name)

def CatalogPage.render (page : CatalogPage) : String :=
  let rows := page.items.map CatalogRow.ofItem
  Table.render
    ["CONNECTOR", "MODE", "SCHEDULE", "ENABLED", "SOURCE", "STATUS", "LAST RUN", "STARTED"]
    (rows.map fun row =>
      [row.connectorId, row.mode, row.schedule, row.enabled, row.sourceType, row.status.label,
       row.lastRunId, row.lastStarted]) ++
  page.summary ++ wizardNote rows

def Layout.render (layout : Layout) : String :=
  Table.keyValues <|
    [("Mode", layout.mode.name),
     ("Auth", layout.auth.name),
     ("Source types", Text.join ", " layout.sourceTypes),
     ("Visible groups", Text.join ", " (layout.groups.map FieldGroup.label))] ++
    layout.defaults.map fun (slot, value) => ("Default", s!"{slot.label} = {value}")

end ConnectorConsole
