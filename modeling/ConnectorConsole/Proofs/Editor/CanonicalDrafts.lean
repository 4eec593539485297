import ConnectorConsole.Proofs.Connector.SourceShape
import ConnectorConsole.Proofs.Editor.Defaults
import ConnectorConsole.Proofs.Json.ReadBack
import ConnectorConsole.Proofs.Json.ReadValues
import ConnectorConsole.Proofs.Text.Splitting

/-!
# Canonical drafts

A draft is canonical when the editor can show every setting of it in a field of its own:
texts are trimmed, texts with a default are not empty, and lists hold entries that their
joined form keeps apart.  A canonical draft that is loaded is built again unchanged up to its
payload, which is what its text reads as.  A payload without floating-point numbers is read
back as it was.
-/

namespace ConnectorConsole

open Json Text

/-- Client settings that the editor keeps. -/
structure OAuthClient.Canonical (client : OAuthClient) : Prop where
  tokenUrl : Filled client.tokenUrl
  clientId : Filled client.clientId
  scopes : ∀ scope ∈ client.scopes, scope ≠ "" ∧
    ∀ c ∈ scope.toList, c ≠ ',' ∧ isBlank c = false
  audience : FilledIfAny client.audience
  clientSecretRef : FilledIfAny client.clientSecretRef

/-- Settings of a polled service that the editor keeps.  Its headers are unrestricted. -/
structure RestPullSource.Canonical (source : RestPullSource) : Prop where
  secretRef : Trimmed source.secretRef
  url : Filled source.url
  method : Filled source.method
  method_upper : ∀ c ∈ source.method.toList, c.isLower = false
  watermarkField : Filled source.watermarkField
  cursorField : FilledIfAny source.cursorField
  nextCursorPath : FilledIfAny source.nextCursorPath
  client : ∀ client ∈ source.auth.client?, client.Canonical

/-- Source settings that the editor keeps. -/
def Source.Canonical : Source → Prop
  | .sqlPull source =>
    Trimmed source.secretRef ∧ Filled source.query ∧ Filled source.watermarkField
  | .restPull source => source.Canonical
  | .restPush source => Trimmed source.secretRef
  | .filePull source => Filled source.path ∧ Filled source.glob ∧ Filled source.watermarkField

/-- A mapping that the editor keeps.  Its content template is unrestricted. -/
structure Mapping.Canonical (mapping : Mapping) : Prop where
  idField : Trimmed mapping.idField
  titleField : Trimmed mapping.titleField
  uriTemplate : FilledIfAny mapping.uriTemplate
  mimeType : Filled mapping.mimeType
  aclUsersField : FilledIfAny mapping.aclUsersField
  aclGroupsField : FilledIfAny mapping.aclGroupsField
  metadataFields : ∀ entry ∈ mapping.metadataFields, Filled entry ∧ ',' ∉ entry.toList

/-- A draft that the editor keeps. -/
structure Draft.Canonical (draft : Draft) : Prop where
  name : Trimmed draft.name
  cron : Trimmed draft.schedule.cron
  source : draft.spec.source.Canonical
  mapping : draft.spec.mapping.Canonical
  bucket : Trimmed draft.spec.staging.bucket
  folder : Trimmed draft.spec.staging.folder
  projectId : Trimmed draft.spec.destination.projectId
  location : Trimmed draft.spec.destination.location
  dataStoreId : Trimmed draft.spec.destination.dataStoreId

/-- A source with a payload and headers as they come from a text: in order, with integers
of machine size, and with containers nested no deeper than can be read. -/
structure Source.Readable (source : Source) : Prop where
  payload : ∀ payload ∈ source.payload?, payload.ReadWithin greatestDepth
  headers : Ascending source.headers

/-- A source with another payload.  Only the settings of a polled service have one. -/
def Source.withPayload (source : Source) (payload : Option (List (String × Json))) : Source :=
  match source with
  | .restPull rest => .restPull { rest with payload }
  | other => other

/-- A draft with another payload. -/
def Draft.withPayload (draft : Draft) (payload : Option (List (String × Json))) : Draft :=
  { draft with spec := { draft.spec with source := draft.spec.source.withPayload payload } }

/-- A source whose payload holds no floating-point number. -/
def Source.FloatFree (source : Source) : Prop :=
  ∀ payload ∈ source.payload?, payload.FloatFree

theorem LawfulNamed.filled_name {α : Type} [Named α] [LawfulNamed α] (value : α) :
    Filled (Named.name value) :=
  ⟨name_ne_empty value, trim_eq_self_iff.mp (trim_name value)⟩

theorem LawfulNamed.not_blank_name {α : Type} [Named α] [LawfulNamed α] (value : α) :
    blank (Named.name value) = false :=
  not_blank_of_filled (filled_name value)

namespace Form

/-- A form in which no field is blank that has a default. -/
def Defaulted (form : Form) : Prop :=
  ∀ slot : DefaultSlot, slot.filled form.mode form.auth = true →
    blank (form.text slot.field) = false

/-- Filling in defaults changes nothing where none is missing. -/
theorem applyDefaults_of_defaulted {form : Form} (defaulted : form.Defaulted) :
    form.applyDefaults = form := by
  have sameText : form.applyDefaults.text = form.text := by
    funext field
    simp only [applyDefaults]
    split
    next value default =>
      obtain ⟨slot, filled, rfl, _⟩ := Layout.slot_of_default? default
      rw [defaulted slot filled]
      rfl
    next => rfl
  exact congrArg (fun text => { form with text := text }) sameText

theorem defaulted_applyDefaults (form : Form) : form.applyDefaults.Defaulted := by
  intro slot filled
  have default : form.layout.default? slot.field = some (slot.value form.mode) :=
    Layout.default?_field filled
  simp only [applyDefaults, default]
  split
  · exact slot.value_not_blank form.mode
  · exact Bool.eq_false_iff.mpr ‹_›

/-- The source settings of a canonical draft fill every field of theirs that has a
default. -/
theorem sourceText_not_blank {source : Source} (canonical : source.Canonical)
    {slot : DefaultSlot} (filled : slot.filled source.mode (sourceAuth source) = true)
    (ofSource : slot ≠ .mimeType ∧ slot ≠ .outputFormat ∧ slot ≠ .deletePolicy) :
    blank (sourceText source slot.field) = false := by
  obtain ⟨notMimeType, notOutputFormat, notDeletePolicy⟩ := ofSource
  cases source with
  | sqlPull source =>
      obtain ⟨_, query, watermarkField⟩ := canonical
      cases slot with
      | sourceType => exact LawfulNamed.not_blank_name source.engine
      | query => exact not_blank_of_filled query
      | watermarkField => exact not_blank_of_filled watermarkField
      | _ => contradiction
  | restPull source =>
      cases slot with
      | sourceType => exact (by decide : blank "http" = false)
      | url => exact not_blank_of_filled canonical.url
      | method => exact not_blank_of_filled canonical.method
      | watermarkField => exact not_blank_of_filled canonical.watermarkField
      | clientAuthMethod =>
          cases auth : source.auth with
          | staticBearer =>
              simp only [sourceAuth, auth] at filled
              cases filled
          | clientCredentials client =>
              simp only [DefaultSlot.field, sourceText, auth]
              exact LawfulNamed.not_blank_name client.clientAuthMethod
      | _ => contradiction
  | restPush source =>
      cases slot with
      | sourceType => exact (by decide : blank "http" = false)
      | _ => contradiction
  | filePull source =>
      obtain ⟨_, glob, watermarkField⟩ := canonical
      cases slot with
      | sourceType => exact (by decide : blank "file" = false)
      | fileGlob => exact not_blank_of_filled glob
      | fileFormat => exact LawfulNamed.not_blank_name source.format
      | watermarkField => exact not_blank_of_filled watermarkField
      | _ => contradiction

/-- Loading a canonical draft leaves no field blank that has a default. -/
theorem defaulted_ofDraft {draft : Draft} (canonical : draft.Canonical) :
    (ofDraft draft).Defaulted := by
  intro slot filled
  cases slot with
  | mimeType => exact not_blank_of_filled canonical.mapping.mimeType
  | outputFormat => exact LawfulNamed.not_blank_name draft.spec.staging.format
  | deletePolicy => exact LawfulNamed.not_blank_name draft.spec.deletePolicy
  | _ => exact sourceText_not_blank canonical.source filled (by decide)

@[simp]
theorem readName_name {α : Type} [Named α] [LawfulNamed α] (value : α) :
    readName (Named.name value) = .ok value := by
  rw [readName, Named.read_name]
  rfl

/-- The indented form of an object is not blank. -/
theorem indented_object_not_blank (entries : List (String × Json)) :
    blank (Json.object entries).indented = false := by
  obtain ⟨c, rest, first, isBrace⟩ :
      ∃ c rest, indentedChars 0 (.object entries) = c :: rest ∧ c = '\x7b' := by
    cases entries <;> exact ⟨_, _, rfl, rfl⟩
  rw [blank, indented, String.toList_ofList, first, isBrace]
  rfl

theorem readPayload_payloadText {payload : Option (List (String × Json))}
    (readable : ∀ entries ∈ payload,
      (Json.object entries).ReadWithin greatestDepth ∧ (Json.object entries).FloatFree) :
    readPayload (payloadText payload) = .ok payload := by
  cases payload with
  | none => rfl
  | some entries =>
      obtain ⟨⟨ordered, sized, shallow⟩, floatFree⟩ := readable entries rfl
      rw [payloadText, readPayload, indented_object_not_blank,
        read_indented floatFree sized shallow, sorted_of_ordered ordered]
      rfl

theorem headersJson_readWithin {headers : List (String × String)} (ascending : Ascending headers) :
    (headersJson headers).ReadWithin greatestDepth where
  ordered := headersJson_ordered ascending
  sized := by
    refine everywhere_object.mpr ⟨True.intro, fun entry member => ?_⟩
    obtain ⟨value, isText⟩ := headersJson_texts member
    exact isText ▸ everywhere_text.mpr True.intro
  shallow := by
    refine Nat.succ_le_succ (nestingEntries_le_iff.mpr fun entry member => ?_)
    obtain ⟨value, isText⟩ := headersJson_texts member
    exact isText ▸ Nat.zero_le _

theorem headersJson_floatFree (headers : List (String × String)) :
    (headersJson headers).FloatFree := by
  refine everywhere_object.mpr ⟨by rintro _ ⟨⟩, fun entry member => ?_⟩
  obtain ⟨value, isText⟩ := headersJson_texts member
  rw [isText]
  simp

theorem readHeaders_headersText {headers : List (String × String)}
    (ascending : Ascending headers) : readHeaders (headersText headers) = .ok headers := by
  cases headers with
  | nil => rfl
  | cons header rest =>
      obtain ⟨ordered, sized, shallow⟩ := headersJson_readWithin ascending
      have isRead := read_indented (headersJson_floatFree _) sized shallow
      rw [sorted_of_ordered ordered, headersJson] at isRead
      change readHeaders (headersJson (header :: rest)).indented = _
      rw [readHeaders, headersJson, indented_object_not_blank, isRead]
      exact congrArg Except.ok (scalarTexts_of_texts (header :: rest))

theorem splitNames_join {texts : List String}
    (whole : ∀ text ∈ texts, text ≠ "" ∧ ∀ c ∈ text.toList, c ≠ ',' ∧ isBlank c = false) :
    splitNames (Text.join ", " texts) = texts := by
  refine fields_join rfl rfl fun text member => ⟨(whole text member).1, fun c inText => ?_⟩
  obtain ⟨notComma, notBlank⟩ := (whole text member).2 c inText
  simp [notComma, notBlank]

theorem splitCommas_join {texts : List String}
    (whole : ∀ text ∈ texts, Filled text ∧ ',' ∉ text.toList) :
    splitCommas (Text.join ", " texts) = texts := by
  have joined := trimmed_fields_join (List.forall_mem_nil _) List.not_mem_nil whole
  rwa [List.nil_append, String.ofList_toList] at joined

/-- Canonical client settings come back from a form that shows them. -/
theorem client_of_shown {client : OAuthClient} (canonical : client.Canonical) {form : Form}
    (shown : ∀ field : TextField, field.group = .oauth →
      form.text field = clientText client field) :
    form.client = .ok client := by
  have tokenUrl : form.trimmed .tokenUrl = client.tokenUrl := by
    rw [trimmed, shown .tokenUrl rfl]
    exact trim_of_trimmed canonical.tokenUrl.2
  have clientId : form.trimmed .clientId = client.clientId := by
    rw [trimmed, shown .clientId rfl]
    exact trim_of_trimmed canonical.clientId.2
  have method : form.trimmed .clientAuthMethod = Named.name client.clientAuthMethod := by
    rw [trimmed, shown .clientAuthMethod rfl]
    exact LawfulNamed.trim_name client.clientAuthMethod
  have scopes : splitNames (form.text .scopes) = client.scopes := by
    rw [shown .scopes rfl]
    exact splitNames_join canonical.scopes
  have audience : nonBlank? (form.text .audience) = client.audience := by
    rw [shown .audience rfl]
    exact nonBlank?_getD canonical.audience
  have clientSecretRef : nonBlank? (form.text .clientSecretRef) = client.clientSecretRef := by
    rw [shown .clientSecretRef rfl]
    exact nonBlank?_getD canonical.clientSecretRef
  rw [Form.client]
  simp only [tokenUrl, clientId, method, scopes, audience, clientSecretRef, canonical.tokenUrl.1,
    canonical.clientId.1, LawfulNamed.name_ne_empty, readName_name, ↓reduceIte]
  rfl

theorem mapping_ofDraft {draft : Draft} (canonical : draft.spec.mapping.Canonical) :
    (ofDraft draft).mapping = draft.spec.mapping := by
  simp only [mapping, ofDraft, trimmed, draftText, trim_of_trimmed canonical.idField,
    trim_of_trimmed canonical.titleField, nonBlank?_getD canonical.uriTemplate,
    trim_of_trimmed canonical.mimeType.2, nonBlank?_getD canonical.aclUsersField,
    nonBlank?_getD canonical.aclGroupsField, splitCommas_join canonical.metadataFields]

theorem checkSourceType_ofDraft (draft : Draft) : (ofDraft draft).checkSourceType = .ok () := by
  have offered : trim (sourceText draft.spec.source .sourceType) ∈
      draft.spec.source.mode.sourceTypes := by
    cases draft.spec.source with
    | sqlPull sql =>
        have engines : ∀ engine : SqlEngine,
            trim (Named.name engine) ∈ Mode.sqlPull.sourceTypes := by
          intro engine
          cases engine <;> decide
        exact engines sql.engine
    | restPull rest => exact (by decide : trim "http" ∈ Mode.restPull.sourceTypes)
    | restPush push => exact (by decide : trim "http" ∈ Mode.restPush.sourceTypes)
    | filePull file => exact (by decide : trim "file" ∈ Mode.filePull.sourceTypes)
  exact if_pos (.inr offered)

theorem restAuth_ofDraft {draft : Draft} {rest : RestPullSource}
    (isRest : draft.spec.source = .restPull rest)
    (canonical : ∀ client ∈ rest.auth.client?, client.Canonical) :
    (ofDraft draft).restAuth = .ok rest.auth := by
  cases auth : rest.auth with
  | staticBearer => simp only [restAuth, ofDraft, isRest, sourceAuth, auth]
  | clientCredentials client =>
      have reads : (ofDraft draft).client = .ok client := by
        refine client_of_shown (canonical client (by rw [auth]; rfl)) fun field ofOAuth => ?_
        cases field <;>
          first | contradiction | simp only [ofDraft, draftText, isRest, sourceText, auth]
      have mode : (ofDraft draft).auth = .clientCredentials := by
        simp only [ofDraft, isRest, sourceAuth, auth]
      rw [restAuth, mode, reads]
      rfl

/-- The source settings of a canonical draft come back from their fields, with the payload that
its text reads as. -/
theorem source_ofDraft {draft : Draft} (canonical : draft.spec.source.Canonical)
    (ascending : Ascending draft.spec.source.headers) :
    (ofDraft draft).source =
      (readPayload ((ofDraft draft).text .payload)).map draft.spec.source.withPayload := by
  have sourceType := checkSourceType_ofDraft draft
  have mode : (ofDraft draft).mode = draft.spec.source.mode := rfl
  cases isSource : draft.spec.source with
  | sqlPull sql =>
      rw [isSource] at canonical mode
      obtain ⟨secretRef, query, watermarkField⟩ := canonical
      simp only [Form.source, mode, Source.mode]
      simp only [trimmed, ofDraft, draftText, isSource, sourceText, LawfulNamed.trim_name,
        readName_name, trim_of_trimmed secretRef, trim_of_trimmed query.2,
        trim_of_trimmed watermarkField.2]
      rfl
  | restPull rest =>
      rw [isSource] at canonical mode ascending
      have auth := restAuth_ofDraft isSource canonical.client
      have headers : readHeaders (headersText rest.headers) = .ok rest.headers :=
        readHeaders_headersText ascending
      simp only [Form.source, mode, Source.mode, sourceType, auth]
      simp only [trimmed, ofDraft, draftText, isSource, sourceText, headers,
        trim_of_trimmed canonical.secretRef, trim_of_trimmed canonical.url.2,
        trim_of_trimmed canonical.method.2, upperAscii_of_not_lower canonical.method_upper,
        trim_of_trimmed canonical.watermarkField.2, nonBlank?_getD canonical.cursorField,
        nonBlank?_getD canonical.nextCursorPath]
      cases readPayload (payloadText rest.payload) <;> rfl
  | restPush push =>
      rw [isSource] at canonical mode
      simp only [Form.source, mode, Source.mode, sourceType]
      simp only [trimmed, ofDraft, draftText, isSource, sourceText, trim_of_trimmed canonical]
      rfl
  | filePull file =>
      rw [isSource] at canonical mode
      obtain ⟨path, glob, watermarkField⟩ := canonical
      simp only [Form.source, mode, Source.mode, sourceType]
      simp only [trimmed, ofDraft, draftText, isSource, sourceText, LawfulNamed.trim_name,
        readName_name, trim_of_trimmed path.2, path.1, trim_of_trimmed glob.2,
        trim_of_trimmed watermarkField.2]
      rfl

/-- A canonical draft that is loaded is built again with the payload that its text reads as. -/
theorem build_ofDraft_eq {draft : Draft} (canonical : draft.Canonical)
    (ascending : Ascending draft.spec.source.headers) :
    (ofDraft draft).build =
      (readPayload ((ofDraft draft).text .payload)).map draft.withPayload := by
  rw [build, applyDefaults_of_defaulted (defaulted_ofDraft canonical), assemble,
    source_ofDraft canonical.source ascending, mapping_ofDraft canonical.mapping]
  cases readPayload ((ofDraft draft).text .payload) with
  | error problem => rfl
  | ok payload =>
      simp only [ofDraft, trimmed, draftText, trim_of_trimmed canonical.name,
        trim_of_trimmed canonical.cron, trim_of_trimmed canonical.bucket,
        trim_of_trimmed canonical.folder, trim_of_trimmed canonical.projectId,
        trim_of_trimmed canonical.location, trim_of_trimmed canonical.dataStoreId,
        LawfulNamed.trim_name, readName_name, LawfulNamed.ofName?_name]
      rfl

/-- The text of a payload without floating-point numbers reads as that payload. -/
theorem map_readPayload_ofDraft {draft : Draft} (readable : draft.spec.source.Readable)
    (floatFree : draft.spec.source.FloatFree) :
    (readPayload ((ofDraft draft).text .payload)).map draft.withPayload = .ok draft := by
  obtain ⟨name, ⟨source, mapping, staging, destination, deletePolicy⟩, schedule⟩ := draft
  cases source with
  | restPull rest =>
      have isRead : readPayload (payloadText rest.payload) = .ok rest.payload :=
        readPayload_payloadText fun entries present =>
          have member : Json.object entries ∈ (Source.restPull rest).payload? :=
            Option.mem_map_of_mem _ present
          ⟨readable.payload _ member, floatFree _ member⟩
      change (readPayload (payloadText rest.payload)).map _ = _
      rw [isRead]
      rfl
  | _ => rfl

/-- A canonical draft without floating-point numbers that is loaded is built again unchanged. -/
theorem build_ofDraft {draft : Draft} (canonical : draft.Canonical)
    (readable : draft.spec.source.Readable) (floatFree : draft.spec.source.FloatFree) :
    (ofDraft draft).build = .ok draft :=
  (build_ofDraft_eq canonical readable.headers).trans (map_readPayload_ofDraft readable floatFree)

end Form

end ConnectorConsole
