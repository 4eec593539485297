import ConnectorConsole.Proofs.Service.Exchanges
import ConnectorConsole.Proofs.Web.PathSegments

/-!
# Endpoints of the service

An endpoint is a method and a place under the base address, with an identifier in it for some
endpoints.  Endpoints are told apart by their paths as long as the identifiers are plain
segments.  An identifier that is not is missing from the path or lacks its line controls.
-/

namespace ConnectorConsole

open Url (PlainSegment written trunk folders)

/-- What a request to the service is for. -/
inductive Endpoint where
  | snapshot
  | connectorDetail (id : String)
  | runDetail (id : String)
  | catalog
  | storedDraft (id : String)
  | validation
  | preview
  | proposal
  | immediateRun (id : String)
deriving DecidableEq

namespace Endpoint

/-- The endpoint that answers for a target. -/
def ofTarget : OpsTarget → Endpoint
  | .snapshot => snapshot
  | .connector id => connectorDetail id
  | .run id => runDetail id

def method : Endpoint → Method
  | validation | preview | proposal | immediateRun _ => .post
  | snapshot | connectorDetail _ | runDetail _ | catalog | storedDraft _ => .get

/-- The segments between the version and the identifier. -/
def area : Endpoint → List String
  | snapshot => ["ops", "snapshot"]
  | connectorDetail _ => ["ops", "connectors"]
  | runDetail _ => ["ops", "runs"]
  | catalog => ["studio", "catalog"]
  | storedDraft _ | immediateRun _ => ["studio", "connectors"]
  | validation => ["studio", "connectors", "validate"]
  | preview => ["studio", "connectors", "preview"]
  | proposal => ["studio", "connectors", "propose"]

def id? : Endpoint → Option String
  | connectorDetail id | runDetail id | storedDraft id | immediateRun id => some id
  | snapshot | catalog | validation | preview | proposal => none

/-- The segments after the identifier. -/
def after : Endpoint → List String
  | immediateRun _ => ["run-now"]
  | _ => []

def segments (endpoint : Endpoint) : List String :=
  "v1" :: endpoint.area ++ (endpoint.id?.toList ++ endpoint.after)

/-- The path of an endpoint of a service. -/
def path (endpoint : Endpoint) (service : Service) : List String :=
  (service.base.endpoint endpoint.segments).path

variable {endpoint : Endpoint}

theorem plain_front (endpoint : Endpoint) : ∀ word ∈ "v1" :: endpoint.area, PlainSegment word := by
  cases endpoint <;> simp only [area] <;> decide

theorem plain_after (endpoint : Endpoint) : ∀ word ∈ endpoint.after, PlainSegment word := by
  cases endpoint <;> simp only [after] <;> decide

/-- The words of an endpoint stand for themselves. -/
theorem written_front (endpoint : Endpoint) :
    ("v1" :: endpoint.area).map written = "v1" :: endpoint.area := by
  cases endpoint <;> simp only [area] <;> decide

theorem written_after (endpoint : Endpoint) : endpoint.after.map written = endpoint.after := by
  cases endpoint <;> simp only [after] <;> decide

/-- The identifier of an endpoint is found in its place exactly when it is plain and the base
address keeps its segments. -/
theorem id_in_place_iff (service : Service) {id : String} (given : endpoint.id? = some id) :
    (∃ segment, Percent.decode segment = id ∧
      endpoint.path service =
        trunk service.base.path ++ "v1" :: endpoint.area ++ segment :: endpoint.after) ↔
    PlainSegment id ∧ service.base.path ≠ ["", ""] := by
  rw [← Url.segment_in_place_iff service.base (by decide) endpoint.plain_front
    endpoint.plain_after, written_front, written_after, path, segments, given]
  rfl

theorem path_of_plain (service : Service) (plain : ∀ id ∈ endpoint.id?, PlainSegment id) :
    endpoint.path service = folders service.base.path ++ endpoint.segments.map written := by
  refine Url.path_endpoint service.base (by decide) fun text (member : text ∈ endpoint.segments) => ?_
  rcases List.mem_append.mp member with inFront | inRest
  · exact endpoint.plain_front text inFront
  · rcases List.mem_append.mp inRest with isId | inAfter
    · exact plain text (Option.mem_toList.mp isId)
    · exact endpoint.plain_after text inAfter

theorem eq_of_segments_eq {first second : Endpoint} (sameMethod : first.method = second.method)
    (sameSegments : first.segments = second.segments) : first = second := by
  cases first <;> cases second <;> simp_all [method, segments, area, id?, after]

/-- Two endpoints whose identifiers are plain have different methods or different paths. -/
theorem eq_of_path_eq (service : Service) {first second : Endpoint}
    (plainFirst : ∀ id ∈ first.id?, PlainSegment id)
    (plainSecond : ∀ id ∈ second.id?, PlainSegment id) (sameMethod : first.method = second.method)
    (samePath : first.path service = second.path service) : first = second := by
  rw [path_of_plain service plainFirst, path_of_plain service plainSecond,
    List.append_cancel_left_eq] at samePath
  exact eq_of_segments_eq sameMethod (List.map_injective_iff.mpr Url.written_injective samePath)

end Endpoint

theorem Url.withPairs_eq (url : Url) (pairs : List (String × String)) :
    ∃ query, url.withPairs pairs = { url with query := query } := by
  cases pairs with
  | nil => exact ⟨url.query, rfl⟩
  | cons pair rest => exact ⟨_, rfl⟩

namespace Service

/-- A call that sends one request, to an endpoint. -/
def Addresses {α : Type} (service : Service) (call : Call α) (endpoint : Endpoint) : Prop :=
  ∃ (request : Request) (ending : Delivery → Except Fault α),
    call.run = .ask request (fun delivery => .done (ending delivery)) ∧
    request.method = endpoint.method ∧
    ∃ query, request.url = { service.base with path := endpoint.path service, query := query }

variable (service : Service)

theorem fetchOps_addresses (state : QueryState) :
    service.Addresses (service.fetchOps state) (.ofTarget state.target) := by
  obtain ⟨query, isUrl⟩ :=
    (service.base.endpoint state.target.segments).withPairs_eq state.pairs
  refine ⟨_, _, service.run_fetchOps state, ?_, query, ?_⟩
  · cases state.target <;> rfl
  · rw [opsRequest, isUrl]
    cases state.target <;> rfl

theorem fetchDraft_addresses (id : String) :
    service.Addresses (service.fetchDraft id) (.storedDraft id) :=
  ⟨_, _, service.run_fetchDraft id, rfl, service.base.query, rfl⟩

theorem fetchCatalog_addresses (query : CatalogQuery) :
    service.Addresses (service.fetchCatalog query) .catalog := by
  obtain ⟨pairs, isUrl⟩ :=
    (service.base.endpoint ["v1", "studio", "catalog"]).withPairs_eq query.pairs
  have direct (body : ReplyBody) : (liftM (decodeBody CatalogPage.decoder body) :
      Call CatalogPage).run = .done (decodeBody CatalogPage.decoder body) := by
    cases decodeBody CatalogPage.decoder body <;> rfl
  exact ⟨_, _, Call.run_send_bind _ _ direct, rfl, pairs, isUrl⟩

theorem validate_addresses (draft : Draft) :
    service.Addresses (service.validate draft) .validation :=
  ⟨_, _, Call.run_send _ _, rfl, service.base.query, rfl⟩

theorem preview_addresses (draft : Draft) :
    service.Addresses (service.preview draft) .preview :=
  ⟨_, _, Call.run_send _ _, rfl, service.base.query, rfl⟩

theorem propose_addresses (request : ProposalRequest) :
    service.Addresses (service.propose request) .proposal :=
  ⟨_, _, Call.run_send _ _, rfl, service.base.query, rfl⟩

theorem runNow_addresses (id : String) :
    service.Addresses (service.runNow id) (.immediateRun id) :=
  ⟨_, _, Call.run_send _ _, rfl, service.base.query, rfl⟩

/-- For every service: each call is sent to its endpoint.  An identifier is found in its place in
the path exactly when it is a plain segment and the base address is not one that loses a
segment.  Plain identifiers keep the endpoints apart. -/
theorem identifiers_in_place (service : Service) :
    (∀ state, service.Addresses (service.fetchOps state) (.ofTarget state.target)) ∧
    (∀ id, service.Addresses (service.fetchDraft id) (.storedDraft id)) ∧
    (∀ id, service.Addresses (service.runNow id) (.immediateRun id)) ∧
    (∀ query, service.Addresses (service.fetchCatalog query) .catalog) ∧
    (∀ draft, service.Addresses (service.validate draft) .validation ∧
      service.Addresses (service.preview draft) .preview) ∧
    (∀ request, service.Addresses (service.propose request) .proposal) ∧
    (∀ endpoint : Endpoint, ∀ id ∈ endpoint.id?,
      (∃ segment, Percent.decode segment = id ∧
        endpoint.path service =
          trunk service.base.path ++ "v1" :: endpoint.area ++ segment :: endpoint.after) ↔
      PlainSegment id ∧ service.base.path ≠ ["", ""]) ∧
    ∀ first second : Endpoint, (∀ id ∈ first.id?, PlainSegment id) →
      (∀ id ∈ second.id?, PlainSegment id) → first.method = second.method →
      first.path service = second.path service → first = second :=
  ⟨service.fetchOps_addresses, service.fetchDraft_addresses, service.runNow_addresses,
    service.fetchCatalog_addresses,
    fun draft => ⟨service.validate_addresses draft, service.preview_addresses draft⟩,
    service.propose_addresses, fun _ _ given => Endpoint.id_in_place_iff service given,
    fun _ _ => Endpoint.eq_of_path_eq service⟩

/-- A dot in the place of an identifier is passed over, and two dots that a tab sets apart leave
the folder of the connectors. -/
theorem dots_misdirect : ∃ service, connect "http://console.test" = .ok service ∧
    (Endpoint.immediateRun ".").path service = ["v1", "studio", "connectors", "run-now"] ∧
    (Endpoint.storedDraft ".\t.").path service = ["v1", "studio", ""] ∧
    ¬∃ segment, Percent.decode segment = "." ∧
      (Endpoint.immediateRun ".").path service =
        trunk service.base.path ++ "v1" :: (Endpoint.immediateRun ".").area ++
          segment :: (Endpoint.immediateRun ".").after := by
  refine ⟨⟨⟨false, "", "", "console.test", none, [""], none, none⟩, Charset.bodyText⟩, rfl, rfl, rfl, ?_⟩
  rintro ⟨segment, _, isPath⟩
  have total := congrArg List.length isPath
  simp only [List.length_append, List.length_cons] at total
  exact absurd total (by decide)

end Service

end ConnectorConsole
