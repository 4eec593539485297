import ConnectorConsole.Connector.Decoding
import ConnectorConsole.Editor.Form

/-!
# From forms to drafts and back

Building reads only the fields of the selected mode, after filling blank ones
with their defaults. Texts are trimmed, except the content template. Loading a
draft puts every setting back into its field.
-/

namespace ConnectorConsole

/-- Why a form is not a draft yet. -/
inductive BuildProblem where
  | unknownName (complaint : String)
  | wrongSourceType (mode : Mode) (given : String)
  | missingClientSetting (name : String)
  | missingPath
  | wrongOutputFormat (given : String)
  | payloadUnreadable (failure : ReadFailure)
  | payloadNotObject
  | headersUnreadable (failure : ReadFailure)
  | headersNotObject

/-- The fault that a problem is shown as. Texts that should hold JSON are
unreadable, everything else is invalid. -/
def BuildProblem.fault : BuildProblem → Fault
  | .unknownName complaint => .invalid complaint
  | .wrongSourceType mode given =>
    let allowed := Text.join "', '" mode.sourceTypes
    .invalid s!"{mode.name} requires source.type '{allowed}', got '{given}'"
  | .missingClientSetting name => .invalid s!"OAuth client credentials require {name}"
  | .missingPath => .invalid "file_pull requires source.path"
  | .wrongOutputFormat given =>
    .invalid s!"Invalid output format '{given}'. Must be: {Named.listing OutputFormat}"
  | .payloadUnreadable failure => .unreadable s!"Payload JSON is invalid: {failure.message}"
  | .payloadNotObject => .unreadable "Payload JSON must be an object or null"
  | .headersUnreadable failure => .unreadable s!"Headers JSON is invalid: {failure.message}"
  | .headersNotObject => .unreadable "Headers JSON must be an object"

namespace Form

/-- A payload text. Blank and null both mean no payload. -/
def readPayload (text : String) : Except BuildProblem (Option (List (String × Json))) :=
  if Text.blank text then .ok none
  else
    match Json.read text with
    | .error failure => .error (.payloadUnreadable failure)
    | .ok .null => .ok none
    | .ok (.object entries) => .ok (some entries)
    | .ok _ => .error .payloadNotObject

/-- A headers text. Blank means no headers; values are taken for their text. -/
def readHeaders (text : String) : Except BuildProblem (List (String × String)) :=
  if Text.blank text then .ok []
  else
    match Json.read text with
    | .error failure => .error (.headersUnreadable failure)
    | .ok (.object entries) => .ok (entries.map fun (key, value) => (key, value.scalarText))
    | .ok _ => .error .headersNotObject

def trimmed (form : Form) (field : TextField) : String :=
  Text.trim (form.text field)

def readName {α : Type} [Named α] (text : String) : Except BuildProblem α :=
  (Named.read text).mapError .unknownName

/-- Names separated by commas or blanks. -/
def splitNames (text : String) : List String :=
  Text.fields (fun c => c = ',' || Text.isBlank c) text

/-- Names separated by commas; a name may hold blanks inside. -/
def splitCommas (text : String) : List String :=
  (Text.fields (fun c => c = ',') text).filterMap Text.nonBlank?

/-- Modes with a single source type admit that one or a blank. -/
def checkSourceType (form : Form) : Except BuildProblem Unit :=
  let given := form.trimmed .sourceType
  if given = "" ∨ given ∈ form.mode.sourceTypes then .ok ()
  else .error (.wrongSourceType form.mode given)

def client (form : Form) : Except BuildProblem OAuthClient := do
  let tokenUrl := form.trimmed .tokenUrl
  if tokenUrl = "" then throw (.missingClientSetting "tokenUrl")
  let clientId := form.trimmed .clientId
  if clientId = "" then throw (.missingClientSetting "clientId")
  let method := form.trimmed .clientAuthMethod
  let clientAuthMethod ← if method = "" then pure .secretPost else readName method
  return {
    tokenUrl
    clientId
    clientAuthMethod
    scopes := splitNames (form.text .scopes)
    audience := Text.nonBlank? (form.text .audience)
    clientSecretRef := Text.nonBlank? (form.text .clientSecretRef) }

def restAuth (form : Form) : Except BuildProblem RestAuth :=
  match form.auth with
  | .staticBearer => .ok .staticBearer
  | .clientCredentials => form.client.map .clientCredentials

/-- The source block of a form as it stands, without defaults. -/
def source (form : Form) : Except BuildProblem Source := do
  match form.mode with
  | .sqlPull =>
    return .sqlPull {
      engine := ← readName (form.trimmed .sourceType)
      secretRef := form.trimmed .secretRef
      query := form.trimmed .query
      watermarkField := form.trimmed .watermarkField }
  | .restPull =>
    form.checkSourceType
    let auth ← form.restAuth
    let payload ← readPayload (form.text .payload)
    let headers ← readHeaders (form.text .headers)
    return .restPull {
      secretRef := form.trimmed .secretRef
      url := form.trimmed .url
      method := Text.upperAscii (form.trimmed .method)
      watermarkField := form.trimmed .watermarkField
      payload
      cursorField := Text.nonBlank? (form.text .cursorField)
      nextCursorPath := Text.nonBlank? (form.text .nextCursorPath)
      headers
      auth }
  | .restPush =>
    form.checkSourceType
    return .restPush { secretRef := form.trimmed .secretRef }
  | .filePull =>
    form.checkSourceType
    if form.trimmed .path = "" then throw .missingPath
    return .filePull {
      path := form.trimmed .path
      glob := form.trimmed .glob
      format := ← readName (form.trimmed .fileFormat)
      watermarkField := form.trimmed .watermarkField }

def mapping (form : Form) : Mapping where
  idField := form.trimmed .idField
  titleField := form.trimmed .titleField
  contentTemplate := form.text .contentTemplate
  uriTemplate := Text.nonBlank? (form.text .uriTemplate)
  mimeType := form.trimmed .mimeType
  aclUsersField := Text.nonBlank? (form.text .aclUsersField)
  aclGroupsField := Text.nonBlank? (form.text .aclGroupsField)
  metadataFields := splitCommas (form.text .metadataFields)

/-- The draft of a form whose defaults are already filled in. -/
def assemble (form : Form) : Except BuildProblem Draft := do
  let source ← form.source
  let deletePolicy ← readName (form.trimmed .deletePolicy)
  let format ← match Named.ofName? (form.trimmed .outputFormat) with
    | some format => pure format
    | none => throw (.wrongOutputFormat (form.trimmed .outputFormat))
  return {
    name := form.trimmed .name
    spec := {
      source
      mapping := form.mapping
      staging := {
        bucket := form.trimmed .bucket
        folder := form.trimmed .folder
        format }
      destination := {
        projectId := form.trimmed .projectId
        location := form.trimmed .location
        dataStoreId := form.trimmed .dataStoreId }
      deletePolicy }
    schedule := { cron := form.trimmed .cron, enabled := form.scheduleEnabled } }

def build (form : Form) : Except BuildProblem Draft :=
  form.applyDefaults.assemble

/-- The payload as text, empty without one. -/
def payloadText (payload : Option (List (String × Json))) : String :=
  match payload with
  | none => ""
  | some entries => (Json.object entries).indented

/-- The headers as text, empty without any. -/
def headersText (headers : List (String × String)) : String :=
  match headers with
  | [] => ""
  | headers => (Json.object (headers.map fun (key, value) => (key, .text value))).indented

def clientText (client : OAuthClient) : TextField → String
  | .tokenUrl => client.tokenUrl
  | .clientId => client.clientId
  | .clientAuthMethod => Named.name client.clientAuthMethod
  | .scopes => Text.join ", " client.scopes
  | .audience => client.audience.getD ""
  | .clientSecretRef => client.clientSecretRef.getD ""
  | _ => ""

def sourceText : Source → TextField → String
  | .sqlPull source, field =>
    match field with
    | .sourceType => Named.name source.engine
    | .secretRef => source.secretRef
    | .watermarkField => source.watermarkField
    | .query => source.query
    | _ => ""
  | .restPull source, field =>
    match field with
    | .sourceType => "http"
    | .secretRef => source.secretRef
    | .watermarkField => source.watermarkField
    | .url => source.url
    | .method => source.method
    | .payload => payloadText source.payload
    | .headers => headersText source.headers
    | .cursorField => source.cursorField.getD ""
    | .nextCursorPath => source.nextCursorPath.getD ""
    | field =>
      match source.auth with
      | .staticBearer => ""
      | .clientCredentials client => clientText client field
  | .restPush source, field =>
    match field with
    | .sourceType => "http"
    | .secretRef => source.secretRef
    | _ => ""
  | .filePull source, field =>
    match field with
    | .sourceType => "file"
    | .watermarkField => source.watermarkField
    | .path => source.path
    | .glob => source.glob
    | .fileFormat => Named.name source.format
    | _ => ""

def draftText (draft : Draft) : TextField → String
  | .name => draft.name
  | .cron => draft.schedule.cron
  | .idField => draft.spec.mapping.idField
  | .titleField => draft.spec.mapping.titleField
  | .contentTemplate => draft.spec.mapping.contentTemplate
  | .uriTemplate => draft.spec.mapping.uriTemplate.getD ""
  | .mimeType => draft.spec.mapping.mimeType
  | .aclUsersField => draft.spec.mapping.aclUsersField.getD ""
  | .aclGroupsField => draft.spec.mapping.aclGroupsField.getD ""
  | .metadataFields => Text.join ", " draft.spec.mapping.metadataFields
  | .bucket => draft.spec.staging.bucket
  | .folder => draft.spec.staging.folder
  | .outputFormat => Named.name draft.spec.staging.format
  | .projectId => draft.spec.destination.projectId
  | .location => draft.spec.destination.location
  | .dataStoreId => draft.spec.destination.dataStoreId
  | .deletePolicy => Named.name draft.spec.deletePolicy
  | field => sourceText draft.spec.source field

/-- The authentication mode that a source calls for. -/
def sourceAuth : Source → AuthMode
  | .restPull source =>
    match source.auth with
    | .staticBearer => .staticBearer
    | .clientCredentials _ => .clientCredentials
  | _ => .staticBearer

def ofDraft (draft : Draft) : Form where
  mode := draft.mode
  auth := sourceAuth draft.spec.source
  scheduleEnabled := draft.schedule.enabled
  text := draftText draft

end Form

end ConnectorConsole
