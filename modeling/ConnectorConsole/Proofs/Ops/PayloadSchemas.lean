import ConnectorConsole.Ops.Payload
import ConnectorConsole.Proofs.Json.SparseRecords

/-!
# The records that payloads are made of

For each kind of record in a payload: where the records are inside it, and the part of it that
is left when only some of its fields are.  A field that is gone takes its default.  The
decoders follow these schemas, so that what they read off a sparse value is that part.
-/

namespace ConnectorConsole

open Decoder (Follows)

namespace FleetSummary

def schema : Schema :=
  .flat ["window_hours", "total_runs", "successful_runs", "failed_runs", "running_runs",
    "success_rate_percent", "mttr_seconds", "freshness_lag_seconds_max", "pending_push_batches",
    "generated_at"]

def part (other : Json) (summary : FleetSummary) : FleetSummary :=
  let left := other.under schema.names
  { windowHours := (left "window_hours").elim 0 fun _ => summary.windowHours
    totalRuns := (left "total_runs").elim 0 fun _ => summary.totalRuns
    successfulRuns := (left "successful_runs").elim 0 fun _ => summary.successfulRuns
    failedRuns := (left "failed_runs").elim 0 fun _ => summary.failedRuns
    runningRuns := (left "running_runs").elim 0 fun _ => summary.runningRuns
    successRate := (left "success_rate_percent").elim (.zero false) fun _ => summary.successRate
    meanRepairSeconds := (left "mttr_seconds").elim none fun _ => summary.meanRepairSeconds
    greatestLagSeconds :=
      (left "freshness_lag_seconds_max").elim none fun _ => summary.greatestLagSeconds
    pendingBatches := (left "pending_push_batches").elim 0 fun _ => summary.pendingBatches
    generatedAt := (left "generated_at").elim none fun _ => summary.generatedAt }

theorem follows : decoder.Follows schema part := by
  refine .record ⟨rfl, by decide, by decide⟩ fun find other kept => ?_
  -- field by field from the last to the first, until only the constructor is left
  repeat refine .seq ?_ (.withDefault (.scalar _) _ (kept (_, .scalar) (by simp)))
  refine .pure ?_
  intros
  subst_vars
  rfl

end FleetSummary

namespace ConnectorHealth

def schema : Schema :=
  .flat ["connector_id", "mode", "schedule", "schedule_enabled", "source_type", "last_status",
    "last_run_id", "last_started_at", "last_finished_at", "last_error_class",
    "checkpoint_watermark", "checkpoint_updated_at", "freshness_lag_seconds",
    "pending_push_batches"]

def part (other : Json) (row : ConnectorHealth) : ConnectorHealth :=
  let left := other.under schema.names
  { connectorId := (left "connector_id").elim "" fun _ => row.connectorId
    mode := (left "mode").elim none fun _ => row.mode
    schedule := (left "schedule").elim none fun _ => row.schedule
    scheduleEnabled := (left "schedule_enabled").elim true fun _ => row.scheduleEnabled
    sourceType := (left "source_type").elim none fun _ => row.sourceType
    lastStatus := (left "last_status").elim none fun _ => row.lastStatus
    lastRunId := (left "last_run_id").elim none fun _ => row.lastRunId
    lastStartedAt := (left "last_started_at").elim none fun _ => row.lastStartedAt
    lastFinishedAt := (left "last_finished_at").elim none fun _ => row.lastFinishedAt
    lastErrorClass := (left "last_error_class").elim none fun _ => row.lastErrorClass
    checkpointWatermark := (left "checkpoint_watermark").elim none fun _ => row.checkpointWatermark
    checkpointUpdatedAt := (left "checkpoint_updated_at").elim none fun _ => row.checkpointUpdatedAt
    lagSeconds := (left "freshness_lag_seconds").elim none fun _ => row.lagSeconds
    pendingBatches := (left "pending_push_batches").elim 0 fun _ => row.pendingBatches }

theorem follows : decoder.Follows schema part := by
  refine .record ⟨rfl, by decide, by decide⟩ fun find other kept => ?_
  repeat refine .seq ?_ (.withDefault (.scalar _) _ (kept (_, .scalar) (by simp)))
  refine .pure ?_
  intros
  subst_vars
  rfl

end ConnectorHealth

namespace RunLinks

def schema : Schema :=
  .flat ["splunk_url", "kestra_url"]

def part (other : Json) (links : RunLinks) : RunLinks :=
  let left := other.under schema.names
  { splunk := (left "splunk_url").elim none fun _ => links.splunk
    kestra := (left "kestra_url").elim none fun _ => links.kestra }

theorem follows : decoder.Follows schema part := by
  refine .record ⟨rfl, by decide, by decide⟩ fun find other kept => ?_
  repeat refine .seq ?_ (.withDefault (.scalar _) _ (kept (_, .scalar) (by simp)))
  refine .pure ?_
  intros
  subst_vars
  rfl

end RunLinks

namespace RunRecord

def schema : Schema :=
  .record
    [("run_id", .scalar), ("connector_id", .scalar), ("status", .scalar), ("started_at", .scalar),
     ("finished_at", .scalar), ("duration_seconds", .scalar), ("upserts_count", .scalar),
     ("deletes_count", .scalar), ("error_class", .scalar), ("error_message", .scalar),
     ("links", RunLinks.schema)]

def part (other : Json) (run : RunRecord) : RunRecord :=
  let left := other.under schema.names
  { runId := (left "run_id").elim "" fun _ => run.runId
    connectorId := (left "connector_id").elim "" fun _ => run.connectorId
    status := (left "status").elim none fun _ => run.status
    startedAt := (left "started_at").elim none fun _ => run.startedAt
    finishedAt := (left "finished_at").elim none fun _ => run.finishedAt
    durationSeconds := (left "duration_seconds").elim none fun _ => run.durationSeconds
    upserts := (left "upserts_count").elim 0 fun _ => run.upserts
    deletes := (left "deletes_count").elim 0 fun _ => run.deletes
    errorClass := (left "error_class").elim none fun _ => run.errorClass
    errorMessage := (left "error_message").elim none fun _ => run.errorMessage
    links := (left "links").elim ⟨none, none⟩ fun links => run.links.part links }

theorem follows : decoder.Follows schema part := by
  refine .record ⟨rfl, by decide, by decide⟩ fun find other kept => ?_
  refine .seq ?_ (.withDefault RunLinks.follows _ (kept (_, RunLinks.schema) (by simp)))
  repeat refine .seq ?_ (.withDefault (.scalar _) _ (kept (_, .scalar) (by simp)))
  refine .pure ?_
  intros
  subst_vars
  rfl

end RunRecord

namespace RunsPage

def schema : Schema :=
  .flat ["offset_runs", "limit_runs", "total_runs", "has_more"]

def part (other : Json) (page : RunsPage) : RunsPage :=
  let left := other.under schema.names
  { offset := (left "offset_runs").elim 0 fun _ => page.offset
    limit := (left "limit_runs").elim 0 fun _ => page.limit
    total := (left "total_runs").elim 0 fun _ => page.total
    hasMore := (left "has_more").elim false fun _ => page.hasMore }

theorem follows : decoder.Follows schema part := by
  refine .record ⟨rfl, by decide, by decide⟩ fun find other kept => ?_
  repeat refine .seq ?_ (.withDefault (.scalar _) _ (kept (_, .scalar) (by simp)))
  refine .pure ?_
  intros
  subst_vars
  rfl

end RunsPage

namespace FleetSnapshot

def schema : Schema :=
  .record
    [("summary", FleetSummary.schema), ("connectors", .list ConnectorHealth.schema),
     ("recent_runs", .list RunRecord.schema), ("runs_page", RunsPage.schema)]

def part (other : Json) (snapshot : FleetSnapshot) : FleetSnapshot :=
  let left := other.under schema.names
  { summary := (left "summary").elim .blank fun summary => snapshot.summary.part summary
    connectors := (left "connectors").elim [] fun rows =>
      rows.parts ConnectorHealth.part snapshot.connectors
    recentRuns := (left "recent_runs").elim [] fun runs =>
      runs.parts RunRecord.part snapshot.recentRuns
    runsPage := (left "runs_page").elim none fun page => snapshot.runsPage.map (·.part page) }

theorem follows : decoder.Follows schema part := by
  refine .record ⟨rfl, by decide, by decide⟩ fun find other kept => ?_
  refine .seq ?_ (.withDefault (.nullable RunsPage.follows) _
    (kept (_, RunsPage.schema) (by simp)))
  refine .seq ?_ (.withDefault (.list RunRecord.follows) _
    (kept (_, .list RunRecord.schema) (by simp)))
  refine .seq ?_ (.withDefault (.list ConnectorHealth.follows) _
    (kept (_, .list ConnectorHealth.schema) (by simp)))
  refine .seq ?_ (.withDefault FleetSummary.follows _ (kept (_, FleetSummary.schema) (by simp)))
  refine .pure ?_
  intros
  subst_vars
  rfl

end FleetSnapshot

namespace ConnectorDetail

def schema : Schema :=
  .record
    [("connector", ConnectorHealth.schema), ("recent_runs", .list RunRecord.schema),
     ("runs_page", RunsPage.schema), ("status_filter", .scalar)]

def part (other : Json) (detail : ConnectorDetail) : ConnectorDetail :=
  let left := other.under schema.names
  { connector := (left "connector").elim .blank fun row => detail.connector.part row
    recentRuns := (left "recent_runs").elim [] fun runs =>
      runs.parts RunRecord.part detail.recentRuns
    runsPage := (left "runs_page").elim none fun page => detail.runsPage.map (·.part page)
    statusFilter := (left "status_filter").elim none fun _ => detail.statusFilter }

theorem follows : decoder.Follows schema part := by
  refine .record ⟨rfl, by decide, by decide⟩ fun find other kept => ?_
  refine .seq ?_ (.withDefault (.scalar _) _ (kept (_, .scalar) (by simp)))
  refine .seq ?_ (.withDefault (.nullable RunsPage.follows) _
    (kept (_, RunsPage.schema) (by simp)))
  refine .seq ?_ (.withDefault (.list RunRecord.follows) _
    (kept (_, .list RunRecord.schema) (by simp)))
  refine .seq ?_ (.withDefault ConnectorHealth.follows _
    (kept (_, ConnectorHealth.schema) (by simp)))
  refine .pure ?_
  intros
  subst_vars
  rfl

end ConnectorDetail

/-- Where the records are inside the body for a screen. -/
def OpsView.schema : OpsView → Schema
  | .snapshot => FleetSnapshot.schema
  | .connectorDetail => ConnectorDetail.schema
  | .runDetail => RunRecord.schema

namespace OpsPayload

/-- The payload that a body holds for a screen, or what is wrong with the body. -/
def read (view : OpsView) (body : Json) : Except JsonProblem OpsPayload :=
  match view with
  | .snapshot => (FleetSnapshot.decoder.ofJson body).map .snapshot
  | .connectorDetail => (ConnectorDetail.decoder.ofJson body).map .connector
  | .runDetail => (RunRecord.decoder.ofJson body).map .run

/-- What is wrong with a body is a fault of the transport. -/
theorem decode_eq (view : OpsView) (body : Json) :
    decode view body = (read view body).mapError fun problem =>
      .transport s!"invalid {view.name} payload: {problem.message}" :=
  rfl

theorem decode_eq_ok_iff {view : OpsView} {body : Json} {payload : OpsPayload} :
    decode view body = .ok payload ↔ read view body = .ok payload := by
  rw [decode_eq]
  cases read view body with
  | ok value =>
      constructor
      · rintro ⟨⟩
        rfl
      · rintro ⟨⟩
        rfl
  | error problem => exact ⟨nofun, nofun⟩

end OpsPayload

end ConnectorConsole
