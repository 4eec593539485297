import ConnectorConsole.Proofs.Json.Records
import ConnectorConsole.Proposal

/-!
# The written form of drafts

Reading what was written gives back the same draft, however the entries of its
records are arranged: in the order in which they are written, or sorted as in every
value that was read.  The source block shows settings of its own mode only.
-/

namespace ConnectorConsole

open Json Decoder Fields

namespace Decoder

variable {α : Type}

@[simp]
theorem text_ofJson (value : String) : Decoder.text.ofJson (.text value) = .ok value :=
  rfl

@[simp]
theorem flag_ofJson (value : Bool) : flag.ofJson (.boolean value) = .ok value :=
  rfl

@[simp]
theorem any_ofJson (value : Json) : any.ofJson value = .ok value :=
  rfl

@[simp]
theorem entries_ofJson (held : List (String × Json)) : entries.ofJson (.object held) = .ok held :=
  rfl

@[simp]
theorem byName_ofJson [Named α] [LawfulNamed α] (value : α) :
    (byName α).ofJson (.text (Named.name value)) = .ok value := by
  have found := LawfulNamed.ofName?_name value
  rw [Named.ofName?] at found
  simp only [byName, choice, named, found]

@[simp]
theorem texts_ofJson (values : List String) : texts.ofJson (ofTexts values) = .ok values := by
  change (values.map Json.text).mapM Decoder.text.ofJson = .ok values
  rw [List.mapM_map, show Decoder.text.ofJson ∘ Json.text = pure from rfl]
  exact (List.mapM_pure (l := values) (f := id)).trans (congrArg Except.ok values.map_id)

@[simp]
theorem nullable_ofJson_null (inner : Decoder α) : (nullable inner).ofJson .null = .ok none :=
  rfl

@[simp]
theorem nullable_ofJson_text (inner : Decoder α) (value : String) :
    (nullable inner).ofJson (.text value) = (inner.ofJson (.text value)).map some :=
  rfl

@[simp]
theorem nullable_ofJson_optionalText (value : Option String) :
    (nullable Decoder.text).ofJson (optionalText value) = .ok value := by
  cases value <;> rfl

@[simp]
theorem nullable_ofJson_entries (held : Option (List (String × Json))) :
    (nullable entries).ofJson (ofOption .object held) = .ok held := by
  cases held <;> rfl

/-- A record is never null, so that a record that may be missing reads like one that
may not. -/
theorem nullable_record_ofJson {name : String} {fields : Fields α} {value : Json} {built : α}
    (reads : (record name fields).ofJson value = .ok built) :
    (nullable (record name fields)).ofJson value = .ok (some built) := by
  cases value with
  | null => cases reads
  | _ => simp only [nullable, reads, Except.map]

theorem refine_ofJson {β : Type} {inner : Decoder β} {accept : β → Except String α}
    {value : Json} {part : β} {built : α} (reads : inner.ofJson value = .ok part)
    (accepts : accept part = .ok built) : (refine inner accept).ofJson value = .ok built := by
  simp only [refine, reads, bind, Except.bind, accepts]
  rfl

end Decoder

@[simp]
theorem Json.Arrangement.arrange_optionalText (arrangement : Arrangement)
    (value : Option String) :
    arrangement.arrange (optionalText value) = optionalText value := by
  cases value <;> simp [optionalText, ofOption]

instance (name : String) : (textOr name).Sound :=
  inferInstanceAs ((fun value => value.getD "") <$> Fields.optional name Decoder.text).Sound

@[simp]
theorem build_textOr (name : String) (find : String → Option Json) :
    (textOr name).build find =
      ((Fields.optional name Decoder.text).build find).map fun value => value.getD "" :=
  build_map _ _ find

/-- Headers are read back as the texts that were written for them. -/
theorem scalarTexts_of_texts (headers : List (String × String)) :
    (headers.map fun (key, value) => (key, Json.text value)).map
      (fun (key, value) => (key, value.scalarText)) = headers := by
  rw [List.map_map]
  exact headers.map_id

/-- The payload of a source, if it has one. -/
def Source.payload? : Source → Option Json
  | .restPull source => source.payload.map .object
  | _ => none

/-- The headers of a source. -/
def Source.headers : Source → List (String × String)
  | .restPull source => source.headers
  | _ => []

/-- A draft with the entries of its payload and its headers in ascending order of
keys, as in every draft that was read or built. -/
structure Draft.Ordered (draft : Draft) : Prop where
  payload : ∀ payload ∈ draft.spec.source.payload?, payload.Ordered
  headers : Ascending draft.spec.source.headers

/-- Headers as an object. -/
def headersJson (headers : List (String × String)) : Json :=
  .object (headers.map fun (key, value) => (key, .text value))

/-- An arrangement keeps a source when it leaves its payload and its headers as they
are. -/
def Source.KeptBy (arrangement : Arrangement) : Source → Prop
  | .restPull source =>
    (∀ entries ∈ source.payload, arrangement.arrange (.object entries) = .object entries) ∧
      arrangement.arrange (headersJson source.headers) = headersJson source.headers
  | _ => True

theorem Source.keptBy_asWritten (source : Source) : source.KeptBy .asWritten := by
  cases source with
  | restPull source => exact ⟨fun _ _ => rfl, rfl⟩
  | _ => trivial

theorem headersJson_texts {headers : List (String × String)} {entry : String × Json}
    (member : entry ∈ headers.map fun (key, value) => (key, Json.text value)) :
    ∃ value, entry.2 = .text value := by
  obtain ⟨header, _, rfl⟩ := List.mem_map.mp member
  exact ⟨header.2, rfl⟩

theorem headersJson_ordered {headers : List (String × String)} (ascending : Ascending headers) :
    (headersJson headers).Ordered := by
  refine ordered_object.mpr ⟨List.pairwise_map.mpr ascending, fun entry member => ?_⟩
  obtain ⟨value, isText⟩ := headersJson_texts member
  exact isText ▸ ordered_text value

/-- Sorting keeps a source whose payload and headers are in order. -/
theorem Source.keptBy_asRead {draft : Draft} (ordered : draft.Ordered) :
    draft.spec.source.KeptBy .asRead := by
  cases isSource : draft.spec.source with
  | restPull source =>
      have payload := ordered.payload
      have headers := ordered.headers
      rw [isSource] at payload headers
      refine ⟨fun entries present => sorted_of_ordered (payload _ ?_),
        sorted_of_ordered (headersJson_ordered headers)⟩
      exact Option.mem_map_of_mem _ present
  | _ => trivial

section Records

variable (arrangement : Arrangement)

theorem Mapping.decoder_ofJson_arrange (mapping : Mapping) :
    Mapping.decoder.ofJson (arrangement.arrange mapping.toJson) = .ok mapping := by
  refine record_ofJson_arrange arrangement (by simp) ?_
  simp [lookup_cons, Except.map, Except.bind]

theorem Staging.decoder_ofJson_arrange (staging : Staging) :
    Staging.decoder.ofJson (arrangement.arrange staging.toJson) = .ok staging := by
  refine record_ofJson_arrange arrangement (by simp) ?_
  simp [lookup_cons, Except.map, Except.bind]

theorem Destination.decoder_ofJson_arrange (destination : Destination) :
    Destination.decoder.ofJson (arrangement.arrange destination.toJson) = .ok destination := by
  refine record_ofJson_arrange arrangement (by simp) ?_
  simp [lookup_cons, Except.map, Except.bind]

theorem DeletePolicy.decoder_ofJson_arrange (policy : DeletePolicy) :
    DeletePolicy.decoder.ofJson
      (arrangement.arrange (.object [("deletePolicy", .text (Named.name policy))])) =
        .ok policy := by
  refine record_ofJson_arrange arrangement (by simp) ?_
  simp [lookup_cons]

theorem Schedule.decoder_ofJson_arrange (schedule : Schedule) :
    Schedule.decoder.ofJson (arrangement.arrange schedule.toJson) = .ok schedule := by
  refine record_ofJson_arrange arrangement (by simp) ?_
  simp [lookup_cons, Except.map, Except.bind]

theorem OAuthClient.entries_distinct (client : OAuthClient) :
    (client.entries.map Prod.fst).Nodup := by
  cases secret : client.clientSecretRef <;> simp [OAuthClient.entries, secret]

theorem OAuthClient.decoder_ofJson_arrange (client : OAuthClient) :
    OAuthClient.decoder.ofJson (arrangement.arrange (.object (sortedEntries client.entries))) =
      .ok client := by
  refine record_ofJson_arrange arrangement (sortedEntries_ascending _).distinct ?_
  simp only [lookup_sortedEntries client.entries_distinct]
  obtain ⟨grantType, tokenUrl, clientId, method, scopes, audience, secret⟩ := client
  cases secret <;> simp [OAuthClient.entries, lookup_cons, Except.map, Except.bind]

theorem RestPullSource.decoder_ofJson_arrange {source : RestPullSource}
    (kept : (Source.restPull source).KeptBy arrangement) :
    RestPullSource.decoder.ofJson (arrangement.arrange (Source.restPull source).toJson) =
      .ok source := by
  obtain ⟨secretRef, url, method, watermarkField, payload, cursorField, nextCursorPath, headers,
    auth⟩ := source
  have payloadKept : arrangement.arrange (ofOption .object payload) = ofOption .object payload := by
    cases payload with
    | none => exact arrangement.arrange_null
    | some entries => exact kept.1 entries rfl
  have headersKept : arrangement.arrange (headersJson headers) = headersJson headers := kept.2
  have headersRead := scalarTexts_of_texts headers
  rw [headersJson] at headersKept
  cases auth with
  | staticBearer =>
      refine record_ofJson_arrange arrangement (by simp [RestAuth.entries]) ?_
      simp [RestAuth.entries, RestAuth.ofClient?, lookup_cons, payloadKept, headersKept,
        Except.map, Except.bind, -List.map_map, headersRead]
  | clientCredentials client =>
      have clientReads : (nullable OAuthClient.decoder).ofJson
          (arrangement.arrange (.object (sortedEntries client.entries))) = .ok (some client) :=
        nullable_record_ofJson (OAuthClient.decoder_ofJson_arrange arrangement client)
      refine record_ofJson_arrange arrangement (by simp [RestAuth.entries]) ?_
      simp [RestAuth.entries, RestAuth.ofClient?, lookup_cons, payloadKept, headersKept,
        clientReads, Except.map, Except.bind, -List.map_map, headersRead]

/-- The source block of a mode reads back in that mode. -/
theorem Source.ofJson_arrange {source : Source} (kept : source.KeptBy arrangement) :
    Source.ofJson source.mode (arrangement.arrange source.toJson) = .ok source := by
  cases source with
  | sqlPull source =>
      have reads : SqlSource.decoder.ofJson
          (arrangement.arrange (Source.sqlPull source).toJson) = .ok (.ok source) := by
        refine record_ofJson_arrange arrangement (by simp) ?_
        simp [lookup_cons, Except.map, Except.bind]
      simp only [Source.ofJson, Source.mode, reads]
      rfl
  | restPull source =>
      have reads := RestPullSource.decoder_ofJson_arrange arrangement kept
      simp only [Source.ofJson, Source.mode, reads]
      rfl
  | restPush source =>
      have reads : RestPushSource.decoder.ofJson
          (arrangement.arrange (Source.restPush source).toJson) = .ok source := by
        refine record_ofJson_arrange arrangement (by simp) ?_
        simp [lookup_cons, Except.map]
      simp only [Source.ofJson, Source.mode, reads]
      rfl
  | filePull source =>
      have reads : FileSource.decoder.ofJson
          (arrangement.arrange (Source.filePull source).toJson) = .ok source := by
        refine record_ofJson_arrange arrangement (by simp) ?_
        simp [lookup_cons, Except.map, Except.bind]
      simp only [Source.ofJson, Source.mode, reads]
      rfl

theorem Spec.decoder_ofJson_arrange {spec : Spec} (kept : spec.source.KeptBy arrangement) :
    Spec.decoder.ofJson (arrangement.arrange spec.toJson) = .ok spec := by
  have modeReads : (byName Mode).ofJson (.text spec.source.mode.name) = .ok spec.source.mode :=
    byName_ofJson spec.source.mode
  have policyReads := DeletePolicy.decoder_ofJson_arrange arrangement spec.deletePolicy
  refine refine_ofJson (?_ : _ = Except.ok (Except.ok spec)) rfl
  refine record_ofJson_arrange arrangement (by simp) ?_
  simp [lookup_cons, Except.map, Except.bind, modeReads, policyReads,
    Mapping.decoder_ofJson_arrange, Staging.decoder_ofJson_arrange,
    Destination.decoder_ofJson_arrange, Source.ofJson_arrange arrangement kept]

theorem Draft.decoder_ofJson_arrange {draft : Draft}
    (kept : draft.spec.source.KeptBy arrangement) :
    Draft.decoder.ofJson (arrangement.arrange draft.toJson) = .ok draft := by
  have nameReads : (record "DraftMetadata" (required "name" Decoder.text)).ofJson
      (arrangement.arrange (.object [("name", .text draft.name)])) = .ok draft.name := by
    refine record_ofJson_arrange arrangement (by simp) ?_
    simp [lookup_cons]
  refine record_ofJson_arrange arrangement (by simp) ?_
  simp [lookup_cons, Except.map, Except.bind, nameReads, Schedule.decoder_ofJson_arrange,
    Spec.decoder_ofJson_arrange arrangement kept]

theorem DraftEnvelope.decoder_ofJson_arrange {envelope : DraftEnvelope}
    (kept : envelope.draft.spec.source.KeptBy arrangement) :
    DraftEnvelope.decoder.ofJson (arrangement.arrange envelope.toJson) = .ok envelope := by
  refine record_ofJson_arrange arrangement (by simp) ?_
  simp [lookup_cons, Except.map, Draft.decoder_ofJson_arrange arrangement kept]

theorem ProposalRequest.decoder_ofJson_arrange {request : ProposalRequest}
    (kept : ∀ draft ∈ request.draft, draft.spec.source.KeptBy arrangement) :
    ProposalRequest.decoder.ofJson (arrangement.arrange request.toJson) = .ok request := by
  obtain ⟨action, connectorId, draft⟩ := request
  cases draft with
  | none =>
      refine record_ofJson_arrange arrangement (by simp) ?_
      simp [lookup_cons, Except.map, Except.bind]
  | some draft =>
      have draftReads : (nullable Draft.decoder).ofJson (arrangement.arrange draft.toJson) =
          .ok (some draft) :=
        nullable_record_ofJson (Draft.decoder_ofJson_arrange arrangement (kept draft rfl))
      refine record_ofJson_arrange arrangement (by simp) ?_
      simp [lookup_cons, Except.map, Except.bind, draftReads]

end Records

end ConnectorConsole
