import ConnectorConsole.Connector.Names
import ConnectorConsole.Json.Value

/-!
# Connector drafts

A draft is a connector definition that is not stored yet. Its source block has
one shape per mode, so a draft never carries settings of two modes.
-/

namespace ConnectorConsole

/-- Settings for fetching an access token with client credentials. -/
structure OAuthClient where
  grantType : GrantType := .clientCredentials
  tokenUrl : String
  clientId : String
  clientAuthMethod : ClientAuthMethod := .secretPost
  scopes : List String := []
  audience : Option String := none
  /-- Without one of its own the client uses the secret of the source. -/
  clientSecretRef : Option String := none
deriving BEq, Repr

/-- How requests to a pulled service are authenticated. -/
inductive RestAuth where
  | staticBearer
  | clientCredentials (client : OAuthClient)
deriving BEq, Repr

/-- A database that is queried. -/
structure SqlSource where
  engine : SqlEngine
  secretRef : String
  query : String
  watermarkField : String
deriving BEq, Repr

/-- A service that is polled over HTTP. -/
structure RestPullSource where
  secretRef : String
  url : String
  method : String
  watermarkField : String
  payload : Option (List (String × Json))
  cursorField : Option String
  nextCursorPath : Option String
  headers : List (String × String)
  auth : RestAuth
deriving BEq, Repr

/-- A caller that pushes records over HTTP. -/
structure RestPushSource where
  secretRef : String
deriving BEq, Repr

/-- A directory whose files are picked up. -/
structure FileSource where
  path : String
  glob : String
  format : FileFormat
  watermarkField : String
deriving BEq, Repr

/-- Where records come from. -/
inductive Source where
  | sqlPull (source : SqlSource)
  | restPull (source : RestPullSource)
  | restPush (source : RestPushSource)
  | filePull (source : FileSource)
deriving BEq, Repr

def Source.mode : Source → Mode
  | .sqlPull _ => .sqlPull
  | .restPull _ => .restPull
  | .restPush _ => .restPush
  | .filePull _ => .filePull

/-- How a record becomes a document. -/
structure Mapping where
  idField : String
  titleField : String
  contentTemplate : String
  uriTemplate : Option String := none
  mimeType : String := "text/plain"
  aclUsersField : Option String := none
  aclGroupsField : Option String := none
  metadataFields : List String := []
deriving BEq, Repr

/-- Where documents are staged. -/
structure Staging where
  bucket : String
  folder : String
  format : OutputFormat := .ndjson
deriving BEq, Repr

/-- The data store that receives the documents. -/
structure Destination where
  projectId : String
  location : String
  dataStoreId : String
deriving BEq, Repr

/-- What a connector does, apart from its name and its schedule. -/
structure Spec where
  source : Source
  mapping : Mapping
  staging : Staging
  destination : Destination
  deletePolicy : DeletePolicy
deriving BEq, Repr

/-- When a connector runs. -/
structure Schedule where
  cron : String
  enabled : Bool := true
deriving BEq, Repr

/-- A connector definition under a name. -/
structure Draft where
  name : String
  spec : Spec
  schedule : Schedule
deriving BEq, Repr

namespace Draft

def mode (draft : Draft) : Mode :=
  draft.spec.source.mode

/-- The draft under the name that a copy of it gets. -/
def asCopy (draft : Draft) : Draft :=
  { draft with name := draft.name ++ "-copy" }

end Draft

end ConnectorConsole
