import ConnectorConsole.Fault
import ConnectorConsole.Json.Decoder
import ConnectorConsole.Ops.Target

/-!
# What the service reports

The bodies that the operations screens are made from. Every field has a default,
so a sparse body is read like a full one; only a body of another shape is
refused.
-/

namespace ConnectorConsole

open Json Decoder Fields

def Json.ofWord64 (word : UInt64) : Json :=
  .ofNat word.toNat

def Json.ofWord32 (word : UInt32) : Json :=
  .ofNat word.toNat

def Json.ofDouble (value : Binary64) : Json :=
  .number (.double value)

def Json.ofText? (value : Option String) : Json :=
  ofOption .text value

/-- Aggregates over the fleet. -/
structure FleetSummary where
  windowHours : UInt32
  totalRuns : UInt64
  successfulRuns : UInt64
  failedRuns : UInt64
  runningRuns : UInt64
  successRate : Binary64
  meanRepairSeconds : Option Binary64
  greatestLagSeconds : Option Binary64
  pendingBatches : UInt64
  /-- As served, so that a date that cannot be read is still shown. -/
  generatedAt : Option String
deriving DecidableEq, Repr

/-- The health of one connector. -/
structure ConnectorHealth where
  connectorId : String
  mode : Option String
  schedule : Option String
  scheduleEnabled : Bool
  sourceType : Option String
  lastStatus : Option String
  lastRunId : Option String
  lastStartedAt : Option String
  lastFinishedAt : Option String
  lastErrorClass : Option String
  checkpointWatermark : Option String
  checkpointUpdatedAt : Option String
  lagSeconds : Option Binary64
  pendingBatches : UInt64
deriving DecidableEq, Repr

/-- Where the logs of a run are kept. -/
structure RunLinks where
  splunk : Option String
  kestra : Option String
deriving DecidableEq, Repr

/-- One run of a connector. -/
structure RunRecord where
  runId : String
  connectorId : String
  status : Option String
  startedAt : Option String
  finishedAt : Option String
  durationSeconds : Option Binary64
  upserts : UInt64
  deletes : UInt64
  errorClass : Option String
  errorMessage : Option String
  links : RunLinks
deriving DecidableEq, Repr

/-- The place of a page of runs among all runs. -/
structure RunsPage where
  offset : UInt64
  limit : UInt64
  total : UInt64
  hasMore : Bool
deriving DecidableEq, Repr

/-- What the fleet screen is made from. -/
structure FleetSnapshot where
  summary : FleetSummary
  connectors : List ConnectorHealth
  recentRuns : List RunRecord
  runsPage : Option RunsPage
deriving DecidableEq, Repr

/-- What the screen of a connector is made from. -/
structure ConnectorDetail where
  connector : ConnectorHealth
  recentRuns : List RunRecord
  runsPage : Option RunsPage
  statusFilter : Option String
deriving DecidableEq, Repr

namespace FleetSummary

/-- The summary that stands in for a missing one. -/
def blank : FleetSummary :=
  ⟨0, 0, 0, 0, 0, .zero false, none, none, 0, none⟩

def decoder : Decoder FleetSummary :=
  record "OpsSummary" <|
    FleetSummary.mk
      <$> withDefault "window_hours" 0 word32
      <*> withDefault "total_runs" 0 word64
      <*> withDefault "successful_runs" 0 word64
      <*> withDefault "failed_runs" 0 word64
      <*> withDefault "running_runs" 0 word64
      <*> withDefault "success_rate_percent" (.zero false) double
      <*> optional "mttr_seconds" double
      <*> optional "freshness_lag_seconds_max" double
      <*> withDefault "pending_push_batches" 0 word64
      <*> optional "generated_at" text

def toJson (summary : FleetSummary) : Json :=
  .object
    [("window_hours", ofWord32 summary.windowHours),
     ("total_runs", ofWord64 summary.totalRuns),
     ("successful_runs", ofWord64 summary.successfulRuns),
     ("failed_runs", ofWord64 summary.failedRuns),
     ("running_runs", ofWord64 summary.runningRuns),
     ("success_rate_percent", ofDouble summary.successRate),
     ("mttr_seconds", ofOption ofDouble summary.meanRepairSeconds),
     ("freshness_lag_seconds_max", ofOption ofDouble summary.greatestLagSeconds),
     ("pending_push_batches", ofWord64 summary.pendingBatches),
     ("generated_at", ofText? summary.generatedAt)]

end FleetSummary

namespace ConnectorHealth

/-- The row that stands in for a missing one. -/
def blank : ConnectorHealth :=
  ⟨"", none, none, true, none, none, none, none, none, none, none, none, none, 0⟩

def decoder : Decoder ConnectorHealth :=
  record "ConnectorSummary" <|
    ConnectorHealth.mk
      <$> textOrEmpty "connector_id"
      <*> optional "mode" text
      <*> optional "schedule" text
      <*> withDefault "schedule_enabled" true flag
      <*> optional "source_type" text
      <*> optional "last_status" text
      <*> optional "last_run_id" text
      <*> optional "last_started_at" text
      <*> optional "last_finished_at" text
      <*> optional "last_error_class" text
      <*> optional "checkpoint_watermark" text
      <*> optional "checkpoint_updated_at" text
      <*> optional "freshness_lag_seconds" double
      <*> withDefault "pending_push_batches" 0 word64

def toJson (row : ConnectorHealth) : Json :=
  .object
    [("connector_id", .text row.connectorId),
     ("mode", ofText? row.mode),
     ("schedule", ofText? row.schedule),
     ("schedule_enabled", .boolean row.scheduleEnabled),
     ("source_type", ofText? row.sourceType),
     ("last_status", ofText? row.lastStatus),
     ("last_run_id", ofText? row.lastRunId),
     ("last_started_at", ofText? row.lastStartedAt),
     ("last_finished_at", ofText? row.lastFinishedAt),
     ("last_error_class", ofText? row.lastErrorClass),
     ("checkpoint_watermark", ofText? row.checkpointWatermark),
     ("checkpoint_updated_at", ofText? row.checkpointUpdatedAt),
     ("freshness_lag_seconds", ofOption ofDouble row.lagSeconds),
     ("pending_push_batches", ofWord64 row.pendingBatches)]

end ConnectorHealth

namespace RunLinks

def decoder : Decoder RunLinks :=
  record "RunLinks" <|
    RunLinks.mk <$> optional "splunk_url" text <*> optional "kestra_url" text

def toJson (links : RunLinks) : Json :=
  .object [("splunk_url", ofText? links.splunk), ("kestra_url", ofText? links.kestra)]

end RunLinks

namespace RunRecord

def decoder : Decoder RunRecord :=
  record "RunRecord" <|
    RunRecord.mk
      <$> textOrEmpty "run_id"
      <*> textOrEmpty "connector_id"
      <*> optional "status" text
      <*> optional "started_at" text
      <*> optional "finished_at" text
      <*> optional "duration_seconds" double
      <*> withDefault "upserts_count" 0 word64
      <*> withDefault "deletes_count" 0 word64
      <*> optional "error_class" text
      <*> optional "error_message" text
      <*> withDefault "links" ⟨none, none⟩ RunLinks.decoder

def toJson (run : RunRecord) : Json :=
  .object
    [("run_id", .text run.runId),
     ("connector_id", .text run.connectorId),
     ("status", ofText? run.status),
     ("started_at", ofText? run.startedAt),
     ("finished_at", ofText? run.finishedAt),
     ("duration_seconds", ofOption ofDouble run.durationSeconds),
     ("upserts_count", ofWord64 run.upserts),
     ("deletes_count", ofWord64 run.deletes),
     ("error_class", ofText? run.errorClass),
     ("error_message", ofText? run.errorMessage),
     ("links", run.links.toJson)]

end RunRecord

namespace RunsPage

/-- The page at an offset; more follow when it ends before the last run. -/
def new (offset limit total : UInt64) : RunsPage :=
  ⟨offset, limit, total,
    min (offset.toNat + limit.toNat) (UInt64.size - 1) < total.toNat⟩

def decoder : Decoder RunsPage :=
  record "Page" <|
    RunsPage.mk
      <$> withDefault "offset_runs" 0 word64
      <*> withDefault "limit_runs" 0 word64
      <*> withDefault "total_runs" 0 word64
      <*> withDefault "has_more" false flag

def toJson (page : RunsPage) : Json :=
  .object
    [("offset_runs", ofWord64 page.offset),
     ("limit_runs", ofWord64 page.limit),
     ("total_runs", ofWord64 page.total),
     ("has_more", .boolean page.hasMore)]

/-- The runs on a page, counted from one, or that there are none. Sums wrap around
at the width of a word. -/
def summary (page : Option RunsPage) : String :=
  match page with
  | none => "No runs"
  | some page =>
    if page.total = 0 then "No runs"
    else
      let first := page.offset + 1
      let last := min (page.offset + page.limit) page.total
      s!"{first.toNat}-{last.toNat} of {page.total.toNat}"

end RunsPage

namespace FleetSnapshot

def decoder : Decoder FleetSnapshot :=
  record "OpsSnapshot" <|
    FleetSnapshot.mk
      <$> withDefault "summary" FleetSummary.blank FleetSummary.decoder
      <*> withDefault "connectors" [] (list ConnectorHealth.decoder)
      <*> withDefault "recent_runs" [] (list RunRecord.decoder)
      <*> optional "runs_page" RunsPage.decoder

def toJson (snapshot : FleetSnapshot) : Json :=
  .object
    [("summary", snapshot.summary.toJson),
     ("connectors", .list (snapshot.connectors.map ConnectorHealth.toJson)),
     ("recent_runs", .list (snapshot.recentRuns.map RunRecord.toJson)),
     ("runs_page", ofOption RunsPage.toJson snapshot.runsPage)]

end FleetSnapshot

namespace ConnectorDetail

def decoder : Decoder ConnectorDetail :=
  record "ConnectorDetail" <|
    ConnectorDetail.mk
      <$> withDefault "connector" ConnectorHealth.blank ConnectorHealth.decoder
      <*> withDefault "recent_runs" [] (list RunRecord.decoder)
      <*> optional "runs_page" RunsPage.decoder
      <*> optional "status_filter" text

def toJson (detail : ConnectorDetail) : Json :=
  .object
    [("connector", detail.connector.toJson),
     ("recent_runs", .list (detail.recentRuns.map RunRecord.toJson)),
     ("runs_page", ofOption RunsPage.toJson detail.runsPage),
     ("status_filter", ofText? detail.statusFilter)]

end ConnectorDetail

/-- What an operations screen is made from. -/
inductive OpsPayload where
  | snapshot (snapshot : FleetSnapshot)
  | connector (detail : ConnectorDetail)
  | run (run : RunRecord)
deriving DecidableEq, Repr

namespace OpsPayload

def view : OpsPayload → OpsView
  | .snapshot _ => .snapshot
  | .connector _ => .connectorDetail
  | .run _ => .runDetail

/-- The payload that a body holds for a screen. A body of another shape counts
as a failed fetch. -/
def decode (view : OpsView) (body : Json) : Except Fault OpsPayload :=
  let decoded : Except JsonProblem OpsPayload :=
    match view with
    | .snapshot => (FleetSnapshot.decoder.ofJson body).map .snapshot
    | .connectorDetail => (ConnectorDetail.decoder.ofJson body).map .connector
    | .runDetail => (RunRecord.decoder.ofJson body).map .run
  decoded.mapError fun problem =>
    .transport s!"invalid {view.name} payload: {problem.message}"

end OpsPayload

end ConnectorConsole
