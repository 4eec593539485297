import ConnectorConsole.Connector.Names

/-!
# Editor fields

The editor holds one text per field. Fields come in groups that are shown or
hidden together; some groups belong to one mode and are emptied when the editor
leaves it. Every field has a key by which it is set from the command line.
-/

namespace ConnectorConsole

/-- A group of editor fields that are shown or hidden together. -/
inductive FieldGroup where
  | identity
  | sourceCredentials
  | sqlQuery
  | restRequest
  | restPagination
  | restAuth
  | fileLocation
  | watermark
  | oauth
  | mapping
  | output
  | destination
  | reconciliation
deriving DecidableEq, Repr

namespace FieldGroup

def all : List FieldGroup :=
  [.identity, .sourceCredentials, .sqlQuery, .restRequest, .restPagination, .restAuth,
   .fileLocation, .watermark, .oauth, .mapping, .output, .destination, .reconciliation]

def label : FieldGroup → String
  | .identity => "Identity"
  | .sourceCredentials => "SourceCredentials"
  | .sqlQuery => "SqlQuery"
  | .restRequest => "RestRequest"
  | .restPagination => "RestPagination"
  | .restAuth => "RestAuth"
  | .fileLocation => "FileLocation"
  | .watermark => "Watermark"
  | .oauth => "OAuth"
  | .mapping => "Mapping"
  | .output => "Output"
  | .destination => "Destination"
  | .reconciliation => "Reconciliation"

def key : FieldGroup → String
  | .identity => "identity"
  | .sourceCredentials => "source_credentials"
  | .sqlQuery => "sql_query"
  | .restRequest => "rest_request"
  | .restPagination => "rest_pagination"
  | .restAuth => "rest_auth"
  | .fileLocation => "file_location"
  | .watermark => "watermark"
  | .oauth => "o_auth"
  | .mapping => "mapping"
  | .output => "output"
  | .destination => "destination"
  | .reconciliation => "reconciliation"

/-- The only mode that a group belongs to, if there is one. -/
def owner? : FieldGroup → Option Mode
  | .sqlQuery => some .sqlPull
  | .restRequest => some .restPull
  | .restPagination => some .restPull
  | .restAuth => some .restPull
  | .oauth => some .restPull
  | .fileLocation => some .filePull
  | _ => none

/-- Whether a group is shown for a mode. The client settings are shown only
where client credentials are in use. -/
def shown (mode : Mode) (auth : AuthMode) : FieldGroup → Bool
  | .identity => true
  | .sourceCredentials => mode != .filePull
  | .sqlQuery => mode == .sqlPull
  | .restRequest => mode == .restPull
  | .restPagination => mode == .restPull
  | .restAuth => mode == .restPull
  | .fileLocation => mode == .filePull
  | .watermark => mode != .restPush
  | .oauth => mode == .restPull && auth == .clientCredentials
  | .mapping => true
  | .output => true
  | .destination => true
  | .reconciliation => true

end FieldGroup

/-- A text field of the editor. -/
inductive TextField where
  | name
  | cron
  | sourceType
  | secretRef
  | watermarkField
  | query
  | url
  | method
  | payload
  | headers
  | cursorField
  | nextCursorPath
  | tokenUrl
  | clientId
  | clientAuthMethod
  | scopes
  | audience
  | clientSecretRef
  | path
  | glob
  | fileFormat
  | idField
  | titleField
  | contentTemplate
  | uriTemplate
  | mimeType
  | aclUsersField
  | aclGroupsField
  | metadataFields
  | bucket
  | folder
  | outputFormat
  | projectId
  | location
  | dataStoreId
  | deletePolicy
deriving DecidableEq, Repr

namespace TextField

def all : List TextField :=
  [.name, .cron, .sourceType, .secretRef, .watermarkField, .query, .url, .method, .payload,
   .headers, .cursorField, .nextCursorPath, .tokenUrl, .clientId, .clientAuthMethod, .scopes,
   .audience, .clientSecretRef, .path, .glob, .fileFormat, .idField, .titleField,
   .contentTemplate, .uriTemplate, .mimeType, .aclUsersField, .aclGroupsField, .metadataFields,
   .bucket, .folder, .outputFormat, .projectId, .location, .dataStoreId, .deletePolicy]

def key : TextField → String
  | .name => "name"
  | .cron => "schedule.cron"
  | .sourceType => "source.type"
  | .secretRef => "source.secretRef"
  | .watermarkField => "source.watermarkField"
  | .query => "source.query"
  | .url => "source.url"
  | .method => "source.method"
  | .payload => "source.payload"
  | .headers => "source.headers"
  | .cursorField => "source.paginationCursorField"
  | .nextCursorPath => "source.paginationNextCursorJsonPath"
  | .tokenUrl => "oauth.tokenUrl"
  | .clientId => "oauth.clientId"
  | .clientAuthMethod => "oauth.clientAuthMethod"
  | .scopes => "oauth.scopes"
  | .audience => "oauth.audience"
  | .clientSecretRef => "oauth.clientSecretRef"
  | .path => "source.path"
  | .glob => "source.glob"
  | .fileFormat => "source.format"
  | .idField => "mapping.idField"
  | .titleField => "mapping.titleField"
  | .contentTemplate => "mapping.contentTemplate"
  | .uriTemplate => "mapping.uriTemplate"
  | .mimeType => "mapping.mimeType"
  | .aclUsersField => "mapping.aclUsersField"
  | .aclGroupsField => "mapping.aclGroupsField"
  | .metadataFields => "mapping.metadataFields"
  | .bucket => "output.bucket"
  | .folder => "output.prefix"
  | .outputFormat => "output.format"
  | .projectId => "gemini.projectId"
  | .location => "gemini.location"
  | .dataStoreId => "gemini.dataStoreId"
  | .deletePolicy => "reconciliation.deletePolicy"

def group : TextField → FieldGroup
  | .name => .identity
  | .cron => .identity
  | .sourceType => .sourceCredentials
  | .secretRef => .sourceCredentials
  | .watermarkField => .watermark
  | .query => .sqlQuery
  | .url => .restRequest
  | .method => .restRequest
  | .payload => .restRequest
  | .headers => .restRequest
  | .cursorField => .restPagination
  | .nextCursorPath => .restPagination
  | .tokenUrl => .oauth
  | .clientId => .oauth
  | .clientAuthMethod => .oauth
  | .scopes => .oauth
  | .audience => .oauth
  | .clientSecretRef => .oauth
  | .path => .fileLocation
  | .glob => .fileLocation
  | .fileFormat => .fileLocation
  | .idField => .mapping
  | .titleField => .mapping
  | .contentTemplate => .mapping
  | .uriTemplate => .mapping
  | .mimeType => .mapping
  | .aclUsersField => .mapping
  | .aclGroupsField => .mapping
  | .metadataFields => .mapping
  | .bucket => .output
  | .folder => .output
  | .outputFormat => .output
  | .projectId => .destination
  | .location => .destination
  | .dataStoreId => .destination
  | .deletePolicy => .reconciliation

def ofKey? (text : String) : Option TextField :=
  all.find? fun field => field.key == text

end TextField

/-- What the editor's keys name: one of the two selectors, the switch of the
schedule, or a text field. -/
inductive EditorKey where
  | mode
  | auth
  | scheduleEnabled
  | field (field : TextField)
deriving DecidableEq, Repr

namespace EditorKey

def key : EditorKey → String
  | .mode => "mode"
  | .auth => "source.auth"
  | .scheduleEnabled => "schedule.enabled"
  | .field chosen => chosen.key

def ofKey? (text : String) : Option EditorKey :=
  if text = "mode" then some .mode
  else if text = "source.auth" then some .auth
  else if text = "schedule.enabled" then some .scheduleEnabled
  else (TextField.ofKey? text).map .field

end EditorKey

end ConnectorConsole
