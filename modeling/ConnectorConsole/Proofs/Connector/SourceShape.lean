import ConnectorConsole.Proofs.Connector.WrittenForm

/-!
# What a written draft shows

The written form of a draft names the mode of its source, and its source block has
a value only for settings of that mode.  Client settings stand there exactly when
the source authenticates with client credentials.
-/

namespace ConnectorConsole

open Json Decoder Fields

namespace Json

/-- The value inside a value that a path of keys leads to. -/
def at? : List String → Json → Option Json
  | [], value => some value
  | key :: path, value => (value.get? key).bind (at? path)

@[simp]
theorem at?_nil (value : Json) : at? [] value = some value :=
  rfl

@[simp]
theorem at?_cons (key : String) (path : List String) (value : Json) :
    at? (key :: path) value = (value.get? key).bind (at? path) :=
  rfl

theorem Arrangement.get?_arrange (arrangement : Arrangement) {entries : List (String × Json)}
    (distinct : (entries.map Prod.fst).Nodup) (key : String) :
    (arrangement.arrange (.object entries)).get? key =
      (entries.lookup key).map arrangement.arrange := by
  obtain ⟨held, arranged, _, lookups⟩ := arrangement.arrange_object entries distinct
  rw [arranged, get?, lookups]

end Json

/-- The settings that the source block of a mode has. -/
def Mode.settings : Mode → List String
  | .sqlPull => ["type", "secretRef", "query", "watermarkField"]
  | .restPull =>
    ["type", "secretRef", "url", "method", "watermarkField", "payload",
      "paginationCursorField", "paginationNextCursorJsonPath", "headers", "oauth"]
  | .restPush => ["type", "secretRef"]
  | .filePull => ["type", "path", "glob", "format", "watermarkField"]

/-- The client settings of an authentication, if it uses them. -/
def RestAuth.client? : RestAuth → Option OAuthClient
  | .staticBearer => none
  | .clientCredentials client => some client

/-- The client settings of a source, if it authenticates with client credentials. -/
def Source.client? : Source → Option OAuthClient
  | .restPull source => source.auth.client?
  | _ => none

/-- The entries of the source block in the order in which they are written. -/
def Source.entries (source : Source) : List (String × Json) :=
  match source.toJson with
  | .object entries => entries
  | _ => []

namespace Source

theorem toJson_eq_object (source : Source) : source.toJson = .object source.entries := by
  cases source <;> rfl

theorem entries_distinct (source : Source) : (source.entries.map Prod.fst).Nodup := by
  cases source with
  | restPull source => cases auth : source.auth <;> simp [entries, toJson, RestAuth.entries, auth]
  | _ => simp [entries, toJson]

/-- A setting of another mode is absent or null. -/
theorem mem_settings (source : Source) :
    ∀ entry ∈ source.entries, entry.2 ≠ .null → entry.1 ∈ source.mode.settings := by
  cases source with
  | restPull source =>
      cases auth : source.auth <;>
        simp [entries, toJson, RestAuth.entries, auth, mode, Mode.settings]
  | _ => simp [entries, toJson, mode, Mode.settings]

theorem lookup_oauth (source : Source) :
    source.entries.lookup "oauth" =
      source.client?.map fun client => .object (sortedEntries client.entries) := by
  cases source with
  | restPull source =>
      cases auth : source.auth <;>
        simp [entries, toJson, RestAuth.entries, client?, RestAuth.client?, auth, lookup_cons]
  | _ => simp [entries, toJson, client?, lookup_cons]

end Source

theorem OAuthClient.lookup_clientSecretRef (client : OAuthClient) :
    (sortedEntries client.entries).lookup "clientSecretRef" =
      client.clientSecretRef.map .text := by
  rw [lookup_sortedEntries client.entries_distinct]
  cases secret : client.clientSecretRef <;> simp [entries, lookup_cons, secret]

/-- What a written draft shows of its source. -/
structure Draft.ShownIn (draft : Draft) (written : Json) : Prop where
  mode : written.at? ["spec", "mode"] = some (.text draft.mode.name)
  settings : ∃ entries, written.at? ["spec", "source"] = some (.object entries) ∧
    ∀ entry ∈ entries, entry.2 ≠ .null → entry.1 ∈ draft.mode.settings
  client : (written.at? ["spec", "source", "oauth"]).isSome = draft.spec.source.client?.isSome
  clientSecret : ∀ client ∈ draft.spec.source.client?,
    written.at? ["spec", "source", "oauth", "clientSecretRef"] =
      client.clientSecretRef.map .text

theorem Draft.shownIn_arrange (arrangement : Arrangement) (draft : Draft) :
    draft.ShownIn (arrangement.arrange draft.toJson) := by
  have specAt : (arrangement.arrange draft.toJson).get? "spec" =
      some (arrangement.arrange draft.spec.toJson) := by
    rw [Draft.toJson, arrangement.get?_arrange (by simp)]
    simp [lookup_cons]
  have modeAt : (arrangement.arrange draft.spec.toJson).get? "mode" =
      some (.text draft.mode.name) := by
    rw [Spec.toJson, arrangement.get?_arrange (by simp)]
    simp [Draft.mode]
  have sourceAt : (arrangement.arrange draft.spec.toJson).get? "source" =
      some (arrangement.arrange (.object draft.spec.source.entries)) := by
    rw [Spec.toJson, arrangement.get?_arrange (by simp), ← Source.toJson_eq_object]
    simp [lookup_cons]
  have clientAt : (arrangement.arrange (.object draft.spec.source.entries)).get? "oauth" =
      draft.spec.source.client?.map fun client =>
        arrangement.arrange (.object (sortedEntries client.entries)) := by
    rw [arrangement.get?_arrange draft.spec.source.entries_distinct, Source.lookup_oauth,
      Option.map_map]
    rfl
  constructor
  · simp [specAt, modeAt]
  · obtain ⟨held, arranged, distinct, lookups⟩ :=
      arrangement.arrange_object draft.spec.source.entries draft.spec.source.entries_distinct
    refine ⟨held, by simp [specAt, sourceAt, arranged], ?_⟩
    rintro ⟨key, value⟩ member present
    have found := lookups key
    rw [lookup_of_mem distinct member, eq_comm, Option.map_eq_some_iff] at found
    obtain ⟨original, isEntry, rfl⟩ := found
    have originalPresent : original ≠ .null := by
      rintro rfl
      exact present arrangement.arrange_null
    exact draft.spec.source.mem_settings (key, original) (mem_of_lookup isEntry) originalPresent
  · simp only [at?_cons, specAt, sourceAt, clientAt, Option.bind_some]
    cases draft.spec.source.client? <;> rfl
  · intro client isClient
    rw [Option.mem_def] at isClient
    have secretAt :
        (arrangement.arrange (.object (sortedEntries client.entries))).get? "clientSecretRef" =
          client.clientSecretRef.map .text := by
      rw [arrangement.get?_arrange (sortedEntries_ascending _).distinct,
        client.lookup_clientSecretRef]
      cases client.clientSecretRef <;> simp
    simp only [at?_cons, specAt, sourceAt, clientAt, isClient, Option.bind_some, Option.map_some,
      secretAt]
    cases client.clientSecretRef <;> rfl

/-- Every draft, envelope and request is read back as it was written, from the written
form and from its sorted form, and both show what the source is.  Sorting keeps a draft
when its payload and its headers are in order. -/
theorem Draft.written_reads_back :
    (∀ draft : Draft,
      Draft.decoder.ofJson draft.toJson = .ok draft ∧
      (draft.Ordered → Draft.decoder.ofJson draft.toJson.sorted = .ok draft) ∧
      draft.ShownIn draft.toJson ∧ draft.ShownIn draft.toJson.sorted) ∧
    (∀ envelope : DraftEnvelope,
      DraftEnvelope.decoder.ofJson envelope.toJson = .ok envelope ∧
      (envelope.draft.Ordered →
        DraftEnvelope.decoder.ofJson envelope.toJson.sorted = .ok envelope)) ∧
    ∀ request : ProposalRequest,
      ProposalRequest.decoder.ofJson request.toJson = .ok request ∧
      ((∀ draft ∈ request.draft, draft.Ordered) →
        ProposalRequest.decoder.ofJson request.toJson.sorted = .ok request) := by
  refine ⟨fun draft => ⟨?_, fun ordered => ?_, ?_, ?_⟩, fun envelope => ⟨?_, fun ordered => ?_⟩,
    fun request => ⟨?_, fun ordered => ?_⟩⟩
  · exact Draft.decoder_ofJson_arrange .asWritten draft.spec.source.keptBy_asWritten
  · exact Draft.decoder_ofJson_arrange .asRead (Source.keptBy_asRead ordered)
  · exact draft.shownIn_arrange .asWritten
  · exact draft.shownIn_arrange .asRead
  · exact DraftEnvelope.decoder_ofJson_arrange .asWritten
      envelope.draft.spec.source.keptBy_asWritten
  · exact DraftEnvelope.decoder_ofJson_arrange .asRead (Source.keptBy_asRead ordered)
  · exact ProposalRequest.decoder_ofJson_arrange .asWritten
      fun draft _ => draft.spec.source.keptBy_asWritten
  · exact ProposalRequest.decoder_ofJson_arrange .asRead
      fun draft isDraft => Source.keptBy_asRead (ordered draft isDraft)

/-- A draft over a service with a payload, headers and client settings without a secret
of their own. -/
def Draft.ticketPull : Draft where
  name := "tickets"
  spec :=
    { source := .restPull
        { secretRef := "tickets-secret"
          url := "https://example.com/tickets"
          method := "POST"
          watermarkField := "updated_at"
          payload := some [("limit", .number (.integer 50)), ("state", .text "open")]
          cursorField := some "cursor"
          nextCursorPath := none
          headers := [("Accept", "application/json"), ("X-Team", "")]
          auth := .clientCredentials
            { tokenUrl := "https://example.com/token", clientId := "console"
              scopes := ["tickets.read"] } }
      mapping := { idField := "id", titleField := "title", contentTemplate := " \x7bbody\x7d " }
      staging := { bucket := "bucket", folder := "tickets" }
      destination := { projectId := "project", location := "global", dataStoreId := "tickets" }
      deletePolicy := .autoDeleteMissing }
  schedule := { cron := "0 * * * *" }

theorem Draft.ticketPull_ordered : Draft.ticketPull.Ordered where
  payload := by
    rintro _ ⟨⟩
    rw [ordered_object]
    exact ⟨by rw [Ascending]; decide, by simp⟩
  headers := by
    rw [Ascending]
    decide

theorem Draft.written_reads_back_ticketPull :
    Draft.ticketPull.Ordered ∧
      Draft.decoder.ofJson Draft.ticketPull.toJson.sorted = .ok Draft.ticketPull ∧
      DraftEnvelope.decoder.ofJson (DraftEnvelope.mk .ticketPull).toJson.sorted =
        .ok ⟨.ticketPull⟩ ∧
      ProposalRequest.decoder.ofJson
          (ProposalRequest.mk .edit "tickets" (some .ticketPull)).toJson.sorted =
        .ok ⟨.edit, "tickets", some .ticketPull⟩ :=
  ⟨ticketPull_ordered, (Draft.written_reads_back.1 _).2.1 ticketPull_ordered,
    (Draft.written_reads_back.2.1 _).2 ticketPull_ordered,
    (Draft.written_reads_back.2.2 _).2 fun _ isDraft =>
      Option.some.inj isDraft ▸ ticketPull_ordered⟩

end ConnectorConsole
