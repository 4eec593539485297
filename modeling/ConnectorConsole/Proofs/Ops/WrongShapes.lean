import ConnectorConsole.Ops.Controller
import ConnectorConsole.Proofs.Json.ReadBack
import ConnectorConsole.Proofs.Ops.PayloadSchemas
import ConnectorConsole.Proofs.Service.Deliveries

/-!
# Bodies of another shape

What an operations screen is made from is a record.  A body that is neither an object nor a
list is refused, and so is a list of more items than the record has fields; a shorter list is
read like the object that gives its items the names of the fields.  Whatever is refused is a
fault of the transport, and a poll that receives it keeps the screen and puts up the banner.
-/

namespace ConnectorConsole

namespace OpsPayload

variable {view : OpsView} {body : Json}

/-- What a screen is made from is read as a record of which no field must be present. -/
theorem read_eq_record (view : OpsView) : ∃ name, ∃ fields : Fields OpsPayload,
    fields.Lenient view.schema.names ∧ fields.Sound ∧
      ∀ body, read view body = (Decoder.record name fields).ofJson body := by
  cases view with
  | snapshot =>
      exact ⟨_, _, ⟨rfl, by decide, by decide⟩, inferInstance,
        Decoder.map_record_ofJson OpsPayload.snapshot _ _⟩
  | connectorDetail =>
      exact ⟨_, _, ⟨rfl, by decide, by decide⟩, inferInstance,
        Decoder.map_record_ofJson OpsPayload.connector _ _⟩
  | runDetail =>
      exact ⟨_, _, ⟨rfl, by decide, by decide⟩, inferInstance,
        Decoder.map_record_ofJson OpsPayload.run _ _⟩

theorem decode_of_problem {problem : JsonProblem} (refused : read view body = .error problem) :
    ∃ message, decode view body = .error (.transport message) := by
  rw [decode_eq, refused]
  exact ⟨_, rfl⟩

/-- A body is refused with a fault of the transport or not at all. -/
theorem transport_of_decode {fault : Fault} (refused : decode view body = .error fault) :
    ∃ message, fault = .transport message := by
  rw [decode_eq] at refused
  cases isRead : read view body with
  | ok payload =>
      rw [isRead] at refused
      cases refused
  | error problem =>
      rw [isRead] at refused
      cases refused
      exact ⟨_, rfl⟩

end OpsPayload

namespace Service

variable (service : Service) (state : QueryState)

/-- The body of a reply of success is decoded, announced as JSON or not. -/
theorem run_fetchOps_of_read {σ : Type} (serve : Request → σ → Delivery × σ) {before after : σ}
    {wire : WireReply} (delivered : serve (service.opsRequest state) before = (.reply wire, after))
    (succeeded : (wire.reply service.reader).succeeded = true) {body : Json}
    (isRead : Json.read (wire.reply service.reader).body = .ok body) :
    (service.fetchOps state).run.run serve before =
      (OpsPayload.decode state.view body, [service.opsRequest state], after) := by
  have answered : ((wire.reply service.reader).accept >>= fun body =>
      jsonOf body >>= OpsPayload.decode state.view) = OpsPayload.decode state.view body := by
    rw [← bind_assoc, Reply.accept_bind_jsonOf succeeded, isRead]
    rfl
  rw [run_fetchOps, Exchange.run_ask, delivered]
  exact Prod.ext answered rfl

end Service

open OpsPayload (decode)

/-- For every screen: a body that is neither an object nor a list is refused, and a list is
refused when it has more items than there are fields, and otherwise read like the object that
gives its items their names.  With the entries of that object in the order of their names, which is
how objects are read, the payloads are the same, but another of several problems may come first.  A
body is refused with a fault of the transport, and whoever polls for the screen and receives it
keeps the screen and puts up the banner. -/
theorem wrong_shapes_keep_screen (view : OpsView) :
    (∀ body, (∀ entries, body ≠ .object entries) → (∀ items, body ≠ .list items) →
      ∃ message, decode view body = .error (.transport message)) ∧
    (∀ items, view.schema.names.length < items.length →
      ∃ message, decode view (.list items) = .error (.transport message)) ∧
    (∀ items, items.length ≤ view.schema.names.length →
      decode view (.list items) = decode view (.object (view.schema.names.zip items)) ∧
      ∀ payload, decode view (.list items) = .ok payload ↔
        decode view (.object (Json.sortedEntries (view.schema.names.zip items))) =
          .ok payload) ∧
    ∀ body fault, decode view body = .error fault → (∃ message, fault = .transport message) ∧
      ∀ {σ : Type} (service : Service) (serve : Request → σ → Delivery × σ) (before after : σ)
        (wire : WireReply) (controller : Controller) (request : OpsRequest) (now : Timestamp),
        request.state.view = view → controller.outdated request = false →
        serve (service.opsRequest request.state) before = (.reply wire, after) →
        (wire.reply service.reader).succeeded = true →
        Json.read (wire.reply service.reader).body = .ok body →
        let outcome := ((service.fetchOps request.state).run.run serve before).1
        controller.complete request outcome now =
          (.failed, { controller with
            accepted := request.sequence
            banner := some ("Unable to refresh ops data: " ++ fault.message) }) := by
  obtain ⟨name, fields, lenient, sound, isRecord⟩ := OpsPayload.read_eq_record view
  refine ⟨fun body noObject noList => ?_, fun items long => ?_,
    fun items fits => ⟨?_, fun payload => ?_⟩,
    fun body fault refused => ⟨OpsPayload.transport_of_decode refused, ?_⟩⟩
  · exact OpsPayload.decode_of_problem
      ((isRecord body).trans (Decoder.record_ofJson_mismatch noObject noList))
  · obtain ⟨_, overlong⟩ := Decoder.record_ofJson_overlong lenient long
    exact OpsPayload.decode_of_problem ((isRecord _).trans overlong)
  · rw [OpsPayload.decode_eq, OpsPayload.decode_eq, isRecord, isRecord,
      Decoder.record_ofJson_list lenient fits]
  · rw [OpsPayload.decode_eq_ok_iff, OpsPayload.decode_eq_ok_iff, isRecord, isRecord]
    exact Decoder.record_ofJson_list_eq_ok_iff lenient fits
  · intro σ service serve before after wire controller request now isView current delivered
      succeeded isRead
    rw [service.run_fetchOps_of_read request.state serve delivered succeeded isRead, isView,
      refused]
    dsimp only
    rw [Controller.complete, current]
    rfl

/-- A list that is too long for the fleet, and a poll that is answered with null. -/
theorem wrong_shapes_keep_screen_fleet :
    let service : Service :=
      ⟨⟨false, "", "", "localhost", some 8080, [], none, none⟩, Charset.bodyText⟩
    let wire : WireReply := ⟨200, some "application/json", Utf8.encode "null"⟩
    let serve (_ : Request) (_ : Unit) : Delivery × Unit := (.reply wire, ())
    let shown := (OpsPayload.snapshot ⟨.blank, [], [], none⟩).screen ⟨0, 0, false, 0⟩
    let controller : Controller := ⟨.fresh .snapshot 25, 0, 2, 1, some shown, none⟩
    let request : OpsRequest := ⟨2, 0, .fresh .snapshot 25⟩
    (∃ message, decode .snapshot (.list [.null, .null, .null, .null, .null]) =
      .error (.transport message)) ∧
    ∃ banner,
      let outcome := ((service.fetchOps request.state).run.run serve ()).1
      controller.complete request outcome ⟨1, 0, false, 0⟩ =
        (.failed, ⟨.fresh .snapshot 25, 0, 2, 2, some shown, some banner⟩) := by
  intro service wire serve shown controller request
  obtain ⟨mismatch, overlong, _, polled⟩ := wrong_shapes_keep_screen .snapshot
  refine ⟨overlong _ (by decide), ?_⟩
  obtain ⟨message, refused⟩ := mismatch .null nofun nofun
  have isRead : Json.read (wire.reply service.reader).body = .ok .null := by
    have body : (wire.reply service.reader).body = Json.null.compact := by decide
    rw [body]
    exact Json.read_compact (by simp [Json.FloatFree]) (by simp [Json.MachineSized]) (by decide)
  obtain ⟨_, keeps⟩ := polled .null _ refused
  have kept := keeps service serve () () wire controller request ⟨1, 0, false, 0⟩ rfl (by decide)
    rfl (by decide) isRead
  exact Exists.intro _ kept

/-- A list without items is read as a screen without content. -/
theorem empty_list_accepted :
    decode .snapshot (.list []) = .ok (.snapshot ⟨.blank, [], [], none⟩) ∧
      decode .connectorDetail (.list []) = .ok (.connector ⟨.blank, [], none, none⟩) ∧
      decode .runDetail (.list []) =
        .ok (.run ⟨"", "", none, none, none, none, 0, 0, none, none, ⟨none, none⟩⟩) :=
  ⟨rfl, rfl, rfl⟩

end ConnectorConsole
