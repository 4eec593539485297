import ConnectorConsole.Connector.Encoding
import ConnectorConsole.Json.Decoder

/-!
# Reading drafts

Reading is tolerant: optional settings may be absent, unknown ones are passed
over, and header values of any type are taken for their text. What a mode needs
is checked by the shape of its own source block.
-/

namespace ConnectorConsole

open Decoder Fields

def Decoder.byName (α : Type) [Named α] : Decoder α :=
  choice (Named.choices α)

def Decoder.texts : Decoder (List String) :=
  list text

def OAuthClient.decoder : Decoder OAuthClient :=
  record "OAuthClientCredentials" <|
    OAuthClient.mk
      <$> withDefault "grantType" .clientCredentials (byName GrantType)
      <*> required "tokenUrl" text
      <*> required "clientId" text
      <*> withDefault "clientAuthMethod" .secretPost (byName ClientAuthMethod)
      <*> withDefault "scopes" [] texts
      <*> optional "audience" text
      <*> optional "clientSecretRef" text

/-- The text of an optional setting, empty when the setting is absent or
null. -/
def textOr (name : String) : Fields String :=
  (fun value => value.getD "") <$> optional name text

/-- The settings of a database source; the engine is still a text. -/
def SqlSource.decoder : Decoder (Except String SqlSource) :=
  record "SqlSourceWire" <|
    (fun engine secretRef query watermarkField => do
      return SqlSource.mk (← Named.read engine) secretRef query watermarkField)
      <$> required "type" text
      <*> textOrEmpty "secretRef"
      <*> textOr "query"
      <*> textOr "watermarkField"

/-- The authentication that optional client settings ask for. -/
def RestAuth.ofClient? : Option OAuthClient → RestAuth
  | some client => .clientCredentials client
  | none => .staticBearer

def RestPullSource.decoder : Decoder RestPullSource :=
  record "RestPullWire" <|
    (fun secretRef url method watermarkField payload cursorField nextCursorPath headers client =>
      { secretRef, url, method, watermarkField, payload, cursorField, nextCursorPath
        headers := headers.map fun (key, value) => (key, value.scalarText)
        auth := .ofClient? client })
      <$> textOrEmpty "secretRef"
      <*> textOr "url"
      <*> textOr "method"
      <*> textOr "watermarkField"
      <*> optional "payload" entries
      <*> optional "paginationCursorField" text
      <*> optional "paginationNextCursorJsonPath" text
      <*> withDefault "headers" [] entries
      <*> optional "oauth" OAuthClient.decoder

def RestPushSource.decoder : Decoder RestPushSource :=
  record "RestPushWire" (RestPushSource.mk <$> textOrEmpty "secretRef")

def FileSource.decoder : Decoder FileSource :=
  record "FilePullWire" <|
    FileSource.mk
      <$> textOrEmpty "path"
      <*> textOr "glob"
      <*> (fun format => format.getD .csv) <$> optional "format" (byName FileFormat)
      <*> textOr "watermarkField"

/-- Why a value is not the source block of a mode. -/
inductive SourceProblem where
  | malformed (mode : Mode) (problem : JsonProblem)
  | unknownEngine (complaint : String)
deriving DecidableEq, Repr

def SourceProblem.message : SourceProblem → String
  | .malformed mode problem => s!"Invalid {mode.name} source: {problem.message}"
  | .unknownEngine complaint => complaint

def Source.ofJson (mode : Mode) (value : Json) : Except SourceProblem Source := do
  match mode with
  | .sqlPull =>
    let source ← (SqlSource.decoder.ofJson value).mapError (.malformed mode)
    return .sqlPull (← source.mapError .unknownEngine)
  | .restPull =>
    return .restPull (← (RestPullSource.decoder.ofJson value).mapError (.malformed mode))
  | .restPush =>
    return .restPush (← (RestPushSource.decoder.ofJson value).mapError (.malformed mode))
  | .filePull =>
    return .filePull (← (FileSource.decoder.ofJson value).mapError (.malformed mode))

def Mapping.decoder : Decoder Mapping :=
  record "MappingConfig" <|
    Mapping.mk
      <$> required "idField" text
      <*> required "titleField" text
      <*> required "contentTemplate" text
      <*> optional "uriTemplate" text
      <*> withDefault "mimeType" "text/plain" text
      <*> optional "aclUsersField" text
      <*> optional "aclGroupsField" text
      <*> withDefault "metadataFields" [] texts

def Staging.decoder : Decoder Staging :=
  record "OutputConfig" <|
    Staging.mk
      <$> required "bucket" text
      <*> required "prefix" text
      <*> withDefault "format" .ndjson (byName OutputFormat)

def Destination.decoder : Decoder Destination :=
  record "GeminiConfig" <|
    Destination.mk
      <$> required "projectId" text
      <*> required "location" text
      <*> required "dataStoreId" text

def DeletePolicy.decoder : Decoder DeletePolicy :=
  record "ReconciliationConfig" <|
    withDefault "deletePolicy" .autoDeleteMissing (byName DeletePolicy)

/-- What a connector does. The source block is read once its mode is known. -/
def Spec.decoder : Decoder Spec :=
  refine
    (record "SpecWire" <|
      (fun mode source mapping staging destination deletePolicy =>
        (Source.ofJson mode source).map fun source =>
          Spec.mk source mapping staging destination deletePolicy)
        <$> required "mode" (byName Mode)
        <*> required "source" any
        <*> required "mapping" Mapping.decoder
        <*> required "output" Staging.decoder
        <*> required "gemini" Destination.decoder
        <*> withDefault "reconciliation" .autoDeleteMissing DeletePolicy.decoder)
    fun spec => spec.mapError SourceProblem.message

def Schedule.decoder : Decoder Schedule :=
  record "ScheduleConfig" <|
    Schedule.mk
      <$> required "cron" text
      <*> withDefault "enabled" true flag

def Draft.decoder : Decoder Draft :=
  record "ConnectorDraft" <|
    Draft.mk
      <$> required "metadata" (record "DraftMetadata" (required "name" text))
      <*> required "spec" Spec.decoder
      <*> required "schedule" Schedule.decoder

end ConnectorConsole
