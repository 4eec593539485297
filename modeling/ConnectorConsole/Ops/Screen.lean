import ConnectorConsole.Ops.Display
import ConnectorConsole.Ops.Payload

/-!
# Operations screens

A screen holds the texts that are shown, ready to be laid out. Making one from a
payload is a pure function; the time matters to the screen of a connector only,
which says when it was made.
-/

namespace ConnectorConsole

/-- A text that leads somewhere. -/
structure Link where
  text : String
  address : String
deriving DecidableEq, Repr

namespace Link

def connector (id : String) : Link :=
  ⟨id, OpsTarget.connectorPage id⟩

def run (id : String) : Link :=
  ⟨id, OpsTarget.runPage id⟩

end Link

/-- A table cell: a plain text or a link. -/
inductive Cell where
  | plain (text : String)
  | link (link : Link)
deriving DecidableEq, Repr

namespace Cell

def text : Cell → String
  | .plain shown => shown
  | .link target => target.text

def ofRun? (id : Option String) : Cell :=
  match id with
  | none => .plain notAvailable
  | some id => if id = "" then .plain notAvailable else .link (Link.run id)

end Cell

namespace RunLinks

/-- The links to the logs of a run that have an address. -/
def shown (links : RunLinks) : List Link :=
  [("Splunk", links.splunk), ("Kestra", links.kestra)].filterMap fun (name, address) =>
    (address.filter (· ≠ "")).map fun address => ⟨name, address⟩

end RunLinks

/-- The names of log links, or the placeholder for an empty cell. -/
def logText (links : List Link) : String :=
  match links with
  | [] => emptyCell
  | links => Text.join " | " (links.map Link.text)

/-- The controls below a table of runs. -/
structure Pager where
  label : String
  hasPrevious : Bool
  hasNext : Bool
deriving DecidableEq, Repr

def Pager.ofPage (page : Option RunsPage) : Pager where
  label := "Runs: " ++ RunsPage.summary page
  hasPrevious := page.any fun page => 0 < page.offset
  hasNext := page.any RunsPage.hasMore

/-- The key figures of the fleet. -/
structure KeyFigures where
  successRate : String
  totalRuns : String
  pendingBatches : String
  greatestLag : String
  generated : String
deriving DecidableEq, Repr

/-- A row in the table of connectors. -/
structure ConnectorRow where
  connector : Link
  mode : String
  status : StatusBadge
  lastRun : Cell
  freshness : String
  pendingBatches : String
deriving DecidableEq, Repr

/-- A row in the table of the fleet's runs. -/
structure FleetRunRow where
  run : Link
  connector : Link
  status : StatusBadge
  started : String
  duration : String
  upserts : String
  deletes : String
  logs : List Link
deriving DecidableEq, Repr

/-- A row in the table of a connector's runs. -/
structure ConnectorRunRow where
  run : Link
  status : StatusBadge
  started : String
  finished : String
  duration : String
  errorClass : String
  logs : List Link
deriving DecidableEq, Repr

/-- The screen of the fleet. -/
structure FleetScreen where
  figures : KeyFigures
  connectors : List ConnectorRow
  runs : List FleetRunRow
  pager : Pager
deriving DecidableEq, Repr

/-- The screen of a connector. -/
structure ConnectorScreen where
  connectorId : String
  mode : String
  status : StatusBadge
  freshness : String
  pendingBatches : String
  updated : String
  runs : List ConnectorRunRow
  pager : Pager
deriving DecidableEq, Repr

/-- The screen of a run. -/
structure RunScreen where
  runId : String
  status : StatusBadge
  connector : String
  duration : String
  started : String
  finished : String
  errorClass : String
  errorMessage : String
  mutations : String
  splunk : Option String
  kestra : Option String
deriving DecidableEq, Repr

/-- An operations screen. -/
inductive Screen where
  | fleet (screen : FleetScreen)
  | connector (screen : ConnectorScreen)
  | run (screen : RunScreen)
deriving DecidableEq, Repr

namespace FleetSnapshot

/-- The key figures of a summary. A success rate that is not finite counts as
zero. -/
def figures (summary : FleetSummary) : KeyFigures :=
  let rate := if summary.successRate.isFinite then summary.successRate else .zero false
  { successRate := String.ofList (Binary64.fixedPlaces 1 rate) ++ "%"
    totalRuns := toString summary.totalRuns.toNat
    pendingBatches := toString summary.pendingBatches.toNat
    greatestLag := Duration.text summary.greatestLagSeconds
    generated := "Generated: " ++ dateText summary.generatedAt }

def connectorRow (row : ConnectorHealth) : ConnectorRow where
  connector := Link.connector row.connectorId
  mode := textOrElse row.mode notAvailable
  status := .ofServed row.lastStatus
  lastRun := .ofRun? row.lastRunId
  freshness := Duration.text row.lagSeconds
  pendingBatches := toString row.pendingBatches.toNat

def runRow (run : RunRecord) : FleetRunRow where
  run := Link.run run.runId
  connector := Link.connector run.connectorId
  status := .ofServed run.status
  started := dateText run.startedAt
  duration := Duration.text run.durationSeconds
  upserts := toString run.upserts.toNat
  deletes := toString run.deletes.toNat
  logs := run.links.shown

def screen (snapshot : FleetSnapshot) : FleetScreen where
  figures := figures snapshot.summary
  connectors := snapshot.connectors.map connectorRow
  runs := snapshot.recentRuns.map runRow
  pager := Pager.ofPage snapshot.runsPage

end FleetSnapshot

namespace ConnectorDetail

def runRow (run : RunRecord) : ConnectorRunRow where
  run := Link.run run.runId
  status := .ofServed run.status
  started := dateText run.startedAt
  finished := dateText run.finishedAt
  duration := Duration.text run.durationSeconds
  errorClass := textOrElse run.errorClass emptyCell
  logs := run.links.shown

def screen (detail : ConnectorDetail) (now : Timestamp) : ConnectorScreen where
  connectorId := detail.connector.connectorId
  mode := textOrElse detail.connector.mode notAvailable
  status := .ofServed detail.connector.lastStatus
  freshness := Duration.text detail.connector.lagSeconds
  pendingBatches := toString detail.connector.pendingBatches.toNat
  updated := "Updated: " ++ now.text
  runs := detail.recentRuns.map runRow
  pager := Pager.ofPage detail.runsPage

end ConnectorDetail

def RunRecord.screen (run : RunRecord) : RunScreen where
  runId := run.runId
  status := .ofServed run.status
  connector := textOrElse (some run.connectorId) notAvailable
  duration := Duration.text run.durationSeconds
  started := dateText run.startedAt
  finished := dateText run.finishedAt
  errorClass := textOrElse run.errorClass emptyCell
  errorMessage := textOrElse run.errorMessage emptyCell
  mutations := s!"upserts={run.upserts.toNat}, deletes={run.deletes.toNat}"
  splunk := run.links.splunk.filter (· ≠ "")
  kestra := run.links.kestra.filter (· ≠ "")

def OpsPayload.screen (now : Timestamp) : OpsPayload → Screen
  | .snapshot served => .fleet served.screen
  | .connector detail => .connector (detail.screen now)
  | .run record => .run record.screen

/-- The controls of a screen. The screen of a run has none. -/
def Screen.pager? : Screen → Option Pager
  | .fleet shown => some shown.pager
  | .connector shown => some shown.pager
  | .run _ => none

end ConnectorConsole
