import ConnectorConsole.Ops.Controller
import ConnectorConsole.Proofs.Ops.PayloadSchemas

/-!
# Sparse payloads

A body that is read for a screen is still read when fields are missing from any of its records
or when the records hold entries that nobody knows.  The missing fields take their defaults, and
all others keep their values, so that a sparse body never fails a poll.
-/

namespace ConnectorConsole

namespace OpsPayload

/-- The part of a payload that is left. -/
def part (other : Json) : OpsPayload → OpsPayload
  | .snapshot fleet => .snapshot (fleet.part other)
  | .connector detail => .connector (detail.part other)
  | .run record => .run (record.part other)

variable {view : OpsView} {body other : Json} {payload : OpsPayload}

/-- What a decoder that follows a schema reads, as the payload that it is part of. -/
theorem map_sparser {α : Type} {decoder : Decoder α} {schema : Schema} {partOf : Json → α → α}
    (follows : decoder.Follows schema partOf) {wrap : α → OpsPayload}
    (wraps : ∀ value, (wrap value).part other = wrap (partOf other value))
    (isRead : (decoder.ofJson body).map wrap = .ok payload) (sparser : schema.Sparser body other) :
    (decoder.ofJson other).map wrap = .ok (payload.part other) := by
  obtain ⟨value, decodes, rfl⟩ := ok_of_map isRead
  rw [follows.ofJson_sparser sparser decodes, wraps]
  rfl

theorem read_sparser (isRead : read view body = .ok payload)
    (sparser : view.schema.Sparser body other) : read view other = .ok (payload.part other) := by
  cases view with
  | snapshot => exact map_sparser FleetSnapshot.follows (fun _ => rfl) isRead sparser
  | connectorDetail => exact map_sparser ConnectorDetail.follows (fun _ => rfl) isRead sparser
  | runDetail => exact map_sparser RunRecord.follows (fun _ => rfl) isRead sparser

/-- For every screen and every body that is read for it: a sparser body is read too, as the part
of the payload that is left, where nothing is missing unless it is missing in the body.  No
poll fails for it. -/
theorem sparse_payloads_decode (decodes : decode view body = .ok payload)
    (sparser : view.schema.Sparser body other) :
    decode view other = .ok (payload.part other) ∧ payload.part body = payload ∧
      ∀ (controller : Controller) (request : OpsRequest) (now : Timestamp),
        (controller.complete request (decode view other) now).1 ≠ .failed := by
  rw [decode_eq_ok_iff] at decodes
  have left : decode view other = .ok (payload.part other) :=
    decode_eq_ok_iff.mpr (read_sparser decodes sparser)
  have whole := read_sparser decodes (.same view.schema body)
  rw [decodes] at whole
  refine ⟨left, (Except.ok.inj whole).symm, fun controller request now => ?_⟩
  rw [left]
  rcases controller.complete_cases request (.ok (payload.part other)) now with
    ⟨_, answered⟩ | ⟨_, _, _, answered⟩ | ⟨_, _, failed, _⟩
  · rw [answered]
    exact nofun
  · rw [answered]
    exact nofun
  · cases failed

/-- A fleet whose summary is gone, and a run of it whose status and one link are. -/
theorem sparse_payloads_decode_fleet :
    let links : Json := .object [("kestra_url", .text "k"), ("splunk_url", .text "s")]
    let run : Json :=
      .object [("links", links), ("run_id", .text "r-1"), ("status", .text "FAILED")]
    let body : Json :=
      .object [("recent_runs", .list [run]), ("summary", .object [("total_runs", .ofNat 3)])]
    let fewerLinks : Json := .object [("splunk_url", .text "s")]
    let fewer : Json :=
      .object [("links", fewerLinks), ("note", .null), ("run_id", .text "r-1")]
    let other : Json := .object [("recent_runs", .list [fewer])]
    let ran (status kestra : Option String) : RunRecord :=
      ⟨"r-1", "", status, none, none, none, 0, 0, none, none, ⟨some "s", kestra⟩⟩
    decode .snapshot body = .ok (.snapshot
        ⟨{ FleetSummary.blank with totalRuns := 3 }, [], [ran (some "FAILED") (some "k")], none⟩) ∧
      FleetSnapshot.schema.Sparser body other ∧
      decode .snapshot other = .ok (.snapshot ⟨.blank, [], [ran none none], none⟩) := by
  intro links run body fewerLinks fewer other ran
  have decodes : decode .snapshot body = .ok (.snapshot
      ⟨{ FleetSummary.blank with totalRuns := 3 }, [], [ran (some "FAILED") (some "k")], none⟩) :=
    rfl
  have sparserLinks : RunLinks.schema.Sparser links fewerLinks :=
    .of_sublist _ (by decide) (by simp)
  have sparserRun : RunRecord.schema.Sparser run fewer := by
    refine .object (by decide) (by decide) ?_
    simp [List.lookup_cons, Schema.Sparser.same, sparserLinks]
  have sparserRuns : (Schema.list RunRecord.schema).Sparser (.list [run]) (.list [fewer]) :=
    .list rfl (by simp [sparserRun])
  have sparser : FleetSnapshot.schema.Sparser body other := by
    refine .object (by decide) (by decide) ?_
    simp [List.lookup_cons, sparserRuns]
  exact ⟨decodes, sparser, (sparse_payloads_decode decodes sparser).1⟩

end OpsPayload

end ConnectorConsole
