import ConnectorConsole.Connector.Draft

/-!
# The written form of drafts

A draft is an object with its fields in declared order. The source block is an
object in ascending order of keys; in the pull modes over databases and services
it names the settings of the other kind with null, so that a reader sees that
they are cleared.
-/

namespace ConnectorConsole

open Json

/-- An optional text, with null for an absent one. -/
def optionalText (value : Option String) : Json :=
  ofOption .text value

/-- The entries of client settings in declared order. A client without a secret
of its own has no entry for it. -/
def OAuthClient.entries (client : OAuthClient) : List (String × Json) :=
  [("grantType", .text (Named.name client.grantType)),
   ("tokenUrl", .text client.tokenUrl),
   ("clientId", .text client.clientId),
   ("clientAuthMethod", .text (Named.name client.clientAuthMethod)),
   ("scopes", ofTexts client.scopes),
   ("audience", optionalText client.audience)] ++
  (client.clientSecretRef.map fun secret => ("clientSecretRef", .text secret)).toList

def OAuthClient.toJson (client : OAuthClient) : Json :=
  .object client.entries

/-- The entry of client settings in a source, present for client credentials
only. -/
def RestAuth.entries : RestAuth → List (String × Json)
  | .staticBearer => []
  | .clientCredentials client => [("oauth", .object (sortedEntries client.entries))]

def Source.toJson : Source → Json
  | .sqlPull source =>
    .object
      [("paginationCursorField", .null),
       ("paginationNextCursorJsonPath", .null),
       ("payload", .null),
       ("query", .text source.query),
       ("secretRef", .text source.secretRef),
       ("type", .text (Named.name source.engine)),
       ("url", .null),
       ("watermarkField", .text source.watermarkField)]
  | .restPull source =>
    .object <|
      [("headers", .object (source.headers.map fun (key, value) => (key, .text value))),
       ("method", .text source.method)] ++
      source.auth.entries ++
      [("paginationCursorField", optionalText source.cursorField),
       ("paginationNextCursorJsonPath", optionalText source.nextCursorPath),
       ("payload", ofOption .object source.payload),
       ("query", .null),
       ("secretRef", .text source.secretRef),
       ("type", .text "http"),
       ("url", .text source.url),
       ("watermarkField", .text source.watermarkField)]
  | .restPush source =>
    .object [("secretRef", .text source.secretRef), ("type", .text "http")]
  | .filePull source =>
    .object
      [("format", .text (Named.name source.format)),
       ("glob", .text source.glob),
       ("path", .text source.path),
       ("type", .text "file"),
       ("watermarkField", .text source.watermarkField)]

def Mapping.toJson (mapping : Mapping) : Json :=
  .object
    [("idField", .text mapping.idField),
     ("titleField", .text mapping.titleField),
     ("contentTemplate", .text mapping.contentTemplate),
     ("uriTemplate", optionalText mapping.uriTemplate),
     ("mimeType", .text mapping.mimeType),
     ("aclUsersField", optionalText mapping.aclUsersField),
     ("aclGroupsField", optionalText mapping.aclGroupsField),
     ("metadataFields", ofTexts mapping.metadataFields)]

def Staging.toJson (staging : Staging) : Json :=
  .object
    [("bucket", .text staging.bucket),
     ("prefix", .text staging.folder),
     ("format", .text (Named.name staging.format))]

def Destination.toJson (destination : Destination) : Json :=
  .object
    [("projectId", .text destination.projectId),
     ("location", .text destination.location),
     ("dataStoreId", .text destination.dataStoreId)]

/-- What a connector does as an object. The mode stands beside the source. -/
def Spec.toJson (spec : Spec) : Json :=
  .object
    [("mode", .text spec.source.mode.name),
     ("source", spec.source.toJson),
     ("mapping", spec.mapping.toJson),
     ("output", spec.staging.toJson),
     ("gemini", spec.destination.toJson),
     ("reconciliation", .object [("deletePolicy", .text (Named.name spec.deletePolicy))])]

def Schedule.toJson (schedule : Schedule) : Json :=
  .object [("cron", .text schedule.cron), ("enabled", .boolean schedule.enabled)]

def Draft.toJson (draft : Draft) : Json :=
  .object
    [("metadata", .object [("name", .text draft.name)]),
     ("spec", draft.spec.toJson),
     ("schedule", draft.schedule.toJson)]

end ConnectorConsole
