import ConnectorConsole.Catalog
import ConnectorConsole.Ops.Query
import ConnectorConsole.Service.Exchange
import ConnectorConsole.Text.Charset

/-!
# Calls to the service

One function per endpoint. Readers take the body for JSON whatever its content
type says; writers hand the body on as it came.
-/

namespace ConnectorConsole

/-- Why a text is not the base address of a service. -/
structure BaseProblem where
  given : String
  problem : UrlProblem
deriving DecidableEq, Repr

def BaseProblem.message (problem : BaseProblem) : String :=
  s!"invalid base URL '{problem.given}': {problem.problem.message}"

/-- A bad base address is a fault of the operator's own. -/
def BaseProblem.fault (problem : BaseProblem) : Fault :=
  .invalid problem.message

/-- A service under a base address, with a reader for the bodies of its replies. -/
structure Service where
  base : Url
  reader : BodyReader

namespace Service

def connect (given : String) : Except BaseProblem Service :=
  match Url.read (Text.trim given) with
  | .ok base => .ok ⟨base, Charset.bodyText⟩
  | .error problem => .error ⟨given, problem⟩

def jsonOf (body : ReplyBody) : Except Fault Json :=
  match body with
  | .json value => .ok value
  | .text text =>
    (Json.read text).mapError fun failure =>
      .transport s!"invalid response body: {failure.message}"

def decodeBody {α : Type} (decoder : Decoder α) (body : ReplyBody) : Except Fault α := do
  (decoder.ofJson (← jsonOf body)).mapError fun problem =>
    .transport s!"invalid response body: {problem.message}"

def get (service : Service) (segments : List String) (pairs : List (String × String)) :
    Call ReplyBody :=
  Call.send service.reader ⟨.get, (service.base.endpoint segments).withPairs pairs, none⟩

def post (service : Service) (segments : List String) (body : Json) : Call ReplyBody :=
  Call.send service.reader ⟨.post, service.base.endpoint segments, some body.compact⟩

def fetchOps (service : Service) (state : QueryState) : Call OpsPayload := do
  let body ← service.get state.target.segments state.pairs
  OpsPayload.decode state.view (← jsonOf body)

def fetchDraft (service : Service) (id : String) : Call Draft := do
  let body ← service.get ["v1", "studio", "connectors", id] []
  return (← decodeBody DraftEnvelope.decoder body).draft

def fetchCatalog (service : Service) (query : CatalogQuery) : Call CatalogPage := do
  let body ← service.get ["v1", "studio", "catalog"] query.pairs
  decodeBody CatalogPage.decoder body

def validate (service : Service) (draft : Draft) : Call ReplyBody :=
  service.post ["v1", "studio", "connectors", "validate"] (DraftEnvelope.mk draft).toJson

def preview (service : Service) (draft : Draft) : Call ReplyBody :=
  service.post ["v1", "studio", "connectors", "preview"] (DraftEnvelope.mk draft).toJson

def propose (service : Service) (request : ProposalRequest) : Call ReplyBody :=
  service.post ["v1", "studio", "connectors", "propose"] request.toJson

def runNow (service : Service) (id : String) : Call ReplyBody :=
  Call.send service.reader
    ⟨.post, service.base.endpoint ["v1", "studio", "connectors", id, "run-now"], none⟩

end Service

end ConnectorConsole
