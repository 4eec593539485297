import ConnectorConsole.Proofs.Editor.CanonicalDrafts

/-!
# Rebuilding drafts

Whatever a form builds is canonical: building trims every text, splits every list and
fills in a value where a field with a default is blank.  The canonical drafts are
therefore those that loading and building keep, where their payload reads as it is written.
Floating-point numbers may not: one that is read, written and read again can be another one.
-/

namespace ConnectorConsole

open Json Text

namespace Form

theorem filled_trimmed {form : Form} (defaulted : form.Defaulted) (slot : DefaultSlot)
    (filled : slot.filled form.mode form.auth = true) : Filled (form.trimmed slot.field) :=
  filled_trim (defaulted slot filled)

theorem splitNames_spec {text name : String} (member : name ∈ splitNames text) :
    name ≠ "" ∧ ∀ c ∈ name.toList, c ≠ ',' ∧ isBlank c = false := by
  obtain ⟨notEmpty, whole⟩ := mem_fields member
  refine ⟨notEmpty, fun c inName => ?_⟩
  simpa using whole c inName

theorem splitCommas_spec {text entry : String} (member : entry ∈ splitCommas text) :
    Filled entry ∧ ',' ∉ entry.toList := by
  obtain ⟨piece, isPiece, isEntry⟩ := List.mem_filterMap.mp member
  refine ⟨filledIfAny_nonBlank? piece entry isEntry, fun comma => ?_⟩
  have isTrimmed : trim piece = entry := by
    rw [nonBlank?] at isEntry
    split_ifs at isEntry
    exact Option.some.inj isEntry
  have inPiece := mem_of_mem_trim (isTrimmed ▸ comma)
  simpa using (mem_fields isPiece).2 ',' inPiece

theorem readPayload_readable {text : String} {payload : Option (List (String × Json))}
    (isRead : readPayload text = .ok payload) :
    ∀ entries ∈ payload, (Json.object entries).ReadWithin greatestDepth := by
  intro entries present
  rw [readPayload] at isRead
  split_ifs at isRead
  · cases isRead
    cases present
  · split at isRead
    · cases isRead
    · cases isRead
      cases present
    · cases isRead
      cases present
      exact readWithin_of_read ‹_›
    · cases isRead

theorem readHeaders_ascending {text : String} {headers : List (String × String)}
    (isRead : readHeaders text = .ok headers) : Ascending headers := by
  rw [readHeaders] at isRead
  split_ifs at isRead
  · cases isRead
    exact List.Pairwise.nil
  · split at isRead
    · cases isRead
    · cases isRead
      have ordered := (readWithin_of_read ‹_›).ordered
      exact List.pairwise_map.mpr (ordered_object.mp ordered).1
    · cases isRead

theorem client_canonical {form : Form} {client : OAuthClient}
    (built : form.client = .ok client) : client.Canonical := by
  rw [Form.client] at built
  by_cases noTokenUrl : form.trimmed .tokenUrl = ""
  · rw [if_pos noTokenUrl] at built
    cases built
  rw [if_neg noTokenUrl] at built
  by_cases noClientId : form.trimmed .clientId = ""
  · dsimp only at built
    rw [if_pos noClientId] at built
    cases built
  dsimp only at built
  rw [if_neg noClientId] at built
  obtain ⟨method, isClient⟩ : ∃ method, client =
      { tokenUrl := form.trimmed .tokenUrl, clientId := form.trimmed .clientId
        clientAuthMethod := method, scopes := splitNames (form.text .scopes)
        audience := nonBlank? (form.text .audience)
        clientSecretRef := nonBlank? (form.text .clientSecretRef) } := by
    split_ifs at built <;>
    · obtain ⟨method, _, isClient⟩ := ok_of_bind built
      exact ⟨method, (Except.ok.inj isClient).symm⟩
  rw [isClient]
  exact {
    tokenUrl := ⟨noTokenUrl, trimmed_trim _⟩
    clientId := ⟨noClientId, trimmed_trim _⟩
    scopes := fun _ => splitNames_spec
    audience := filledIfAny_nonBlank? _
    clientSecretRef := filledIfAny_nonBlank? _ }

theorem restAuth_canonical {form : Form} {auth : RestAuth} (built : form.restAuth = .ok auth) :
    ∀ client ∈ auth.client?, client.Canonical := by
  rw [restAuth] at built
  split at built
  · cases built
    rintro _ ⟨⟩
  · cases isClient : form.client with
    | error problem =>
        rw [isClient] at built
        cases built
    | ok client =>
        rw [isClient] at built
        cases built
        rintro _ ⟨⟩
        exact client_canonical isClient

theorem mapping_canonical {form : Form} (defaulted : form.Defaulted) : form.mapping.Canonical where
  idField := trimmed_trim _
  titleField := trimmed_trim _
  uriTemplate := filledIfAny_nonBlank? _
  mimeType := filled_trimmed defaulted .mimeType rfl
  aclUsersField := filledIfAny_nonBlank? _
  aclGroupsField := filledIfAny_nonBlank? _
  metadataFields _ := splitCommas_spec

theorem source_canonical {form : Form} (defaulted : form.Defaulted) {source : Source}
    (built : form.source = .ok source) : source.Canonical ∧ source.Readable := by
  have unread {other : Source} (noPayload : other.payload? = none)
      (noHeaders : other.headers = []) : other.Readable := by
    refine ⟨?_, noHeaders ▸ List.Pairwise.nil⟩
    rw [noPayload]
    rintro _ ⟨⟩
  cases mode : form.mode with
  | sqlPull =>
      simp only [Form.source, mode] at built
      obtain ⟨engine, _, isSource⟩ := ok_of_bind built
      cases isSource
      have query := filled_trimmed defaulted .query (by rw [mode]; rfl)
      have watermarkField := filled_trimmed defaulted .watermarkField (by rw [mode]; rfl)
      exact ⟨⟨trimmed_trim _, query, watermarkField⟩, unread rfl rfl⟩
  | restPull =>
      simp only [Form.source, mode] at built
      obtain ⟨_, _, built⟩ := ok_of_bind built
      obtain ⟨auth, isAuth, built⟩ := ok_of_bind built
      obtain ⟨payload, isPayload, built⟩ := ok_of_bind built
      obtain ⟨headers, isHeaders, isSource⟩ := ok_of_bind built
      cases isSource
      refine ⟨?_, ?_, readHeaders_ascending isHeaders⟩
      · exact {
          secretRef := trimmed_trim _
          url := filled_trimmed defaulted .url (by rw [mode]; rfl)
          method := filled_upperAscii (filled_trimmed defaulted .method (by rw [mode]; rfl))
          method_upper := fun _ => not_lower_of_mem_upperAscii
          watermarkField := filled_trimmed defaulted .watermarkField (by rw [mode]; rfl)
          cursorField := filledIfAny_nonBlank? _
          nextCursorPath := filledIfAny_nonBlank? _
          client := restAuth_canonical isAuth }
      · intro json isJson
        obtain ⟨entries, present, rfl⟩ := Option.map_eq_some_iff.mp isJson
        exact readPayload_readable isPayload entries present
  | restPush =>
      simp only [Form.source, mode] at built
      obtain ⟨_, _, isSource⟩ := ok_of_bind built
      cases isSource
      exact ⟨trimmed_trim _, unread rfl rfl⟩
  | filePull =>
      simp only [Form.source, mode] at built
      obtain ⟨_, _, built⟩ := ok_of_bind built
      split_ifs at built with noPath
      · cases built
      · obtain ⟨format, _, isSource⟩ := ok_of_bind built
        cases isSource
        have glob := filled_trimmed defaulted .fileGlob (by rw [mode]; rfl)
        have watermarkField := filled_trimmed defaulted .watermarkField (by rw [mode]; rfl)
        exact ⟨⟨⟨noPath, trimmed_trim _⟩, glob, watermarkField⟩, unread rfl rfl⟩

/-- Every draft that is built is canonical, and can be read again. -/
theorem draft_canonical {form : Form} {draft : Draft} (built : form.build = .ok draft) :
    draft.Canonical ∧ draft.spec.source.Readable := by
  rw [build, assemble] at built
  have defaulted := form.defaulted_applyDefaults
  obtain ⟨source, isSource, built⟩ := ok_of_bind built
  obtain ⟨deletePolicy, _, built⟩ := ok_of_bind built
  obtain ⟨canonical, readable⟩ := source_canonical defaulted isSource
  split at built
  case h_2 => cases built
  case h_1 format _ =>
  rw [← Except.ok.inj built]
  refine ⟨?_, readable⟩
  exact {
    name := trimmed_trim _
    cron := trimmed_trim _
    source := canonical
    mapping := mapping_canonical defaulted
    bucket := trimmed_trim _
    folder := trimmed_trim _
    projectId := trimmed_trim _
    location := trimmed_trim _
    dataStoreId := trimmed_trim _ }

/-- Among the drafts whose payload can be read back, exactly the canonical ones are built
again unchanged after they were loaded.  Every draft that a form builds is canonical, so that
building it again changes at most its payload, to what the text of the payload reads as, and
changes nothing when the payload holds no floating-point number. -/
theorem build_ofDraft_eq_self_iff :
    (∀ draft : Draft, draft.spec.source.Readable → draft.spec.source.FloatFree →
      ((ofDraft draft).build = .ok draft ↔ draft.Canonical)) ∧
    ∀ (form : Form) (draft : Draft), form.build = .ok draft →
      draft.Canonical ∧
      (ofDraft draft).build =
        (readPayload ((ofDraft draft).text .payload)).map draft.withPayload ∧
      (draft.spec.source.FloatFree → (ofDraft draft).build = .ok draft) := by
  refine ⟨fun draft readable floatFree => ?_, fun form draft built => ?_⟩
  · exact ⟨fun built => (draft_canonical built).1,
      fun canonical => build_ofDraft canonical readable floatFree⟩
  · obtain ⟨canonical, readable⟩ := draft_canonical built
    exact ⟨canonical, build_ofDraft_eq canonical readable.headers,
      build_ofDraft canonical readable⟩

/-- The number that a payload holds under one name, if it holds nothing else and the number is a
floating-point number. -/
def soleDouble? (draft : Draft) : Option Binary64 :=
  match draft.spec.source.payload? with
  | some (.object [(_, .number (.double value))]) => some value
  | _ => none

/-- A number in a payload is read as the one below the nearest one, and that one, once it is
written, as the one below it. -/
theorem rebuilding_drifts :
    let form := (Form.new .restPull).setText .payload "\x7b\"a\": 5e49\x7d"
    ∃ first second, form.build = .ok first ∧ (ofDraft first).build = .ok second ∧
      second ≠ first := by
  intro form
  have numbers : (form.build.toOption.bind fun first =>
      (ofDraft first).build.toOption.map fun second => (soleDouble? first, soleDouble? second)) =
      some (some (.finite false 4814824860968089 113),
        some (.finite false 4814824860968088 113)) := by
    decide +kernel
  cases isFirst : form.build with
  | error problem => simp [isFirst, Except.toOption] at numbers
  | ok first =>
      cases isSecond : (ofDraft first).build with
      | error problem => simp [isFirst, isSecond, Except.toOption] at numbers
      | ok second =>
          rw [isFirst, Except.toOption, Option.bind_some, isSecond, Except.toOption,
            Option.map_some, Option.some.injEq, Prod.mk.injEq] at numbers
          refine ⟨first, second, rfl, isSecond, ?_⟩
          rintro rfl
          exact absurd (numbers.1.symm.trans numbers.2) (by decide)

theorem forall_mem_of_all {text : String} {property : Char → Prop} [DecidablePred property]
    (all : (text.toList.all fun c => decide (property c)) = true) :
    ∀ c ∈ text.toList, property c :=
  fun c member => of_decide_eq_true (List.all_eq_true.mp all c member)

theorem ticketPull_canonical : Draft.ticketPull.Canonical where
  name := by decide
  cron := by decide
  source := {
    secretRef := by decide
    url := by decide
    method := by decide
    method_upper := forall_mem_of_all (by decide)
    watermarkField := by decide
    cursorField := by decide
    nextCursorPath := by decide
    client := by
      rintro _ ⟨⟩
      exact {
        tokenUrl := by decide
        clientId := by decide
        scopes := List.forall_mem_singleton.mpr ⟨by decide, forall_mem_of_all (by decide)⟩
        audience := by decide
        clientSecretRef := by decide } }
  mapping := {
    idField := by decide
    titleField := by decide
    uriTemplate := by decide
    mimeType := by decide
    aclUsersField := by decide
    aclGroupsField := by decide
    metadataFields := by decide }
  bucket := by decide
  folder := by decide
  projectId := by decide
  location := by decide
  dataStoreId := by decide

theorem ticketPull_readable : Draft.ticketPull.spec.source.Readable where
  payload payload present := by
    refine ⟨Draft.ticketPull_ordered.payload payload present, ?_, ?_⟩
    · cases present
      simp [MachineSized, JsonNumber.Sized]
    · cases present
      decide
  headers := Draft.ticketPull_ordered.headers

theorem ticketPull_floatFree : Draft.ticketPull.spec.source.FloatFree := by
  rintro _ ⟨⟩
  simp [FloatFree]

theorem build_ofDraft_eq_self_iff_ticketPull :
    Draft.ticketPull.spec.source.Readable ∧ Draft.ticketPull.spec.source.FloatFree ∧
      (ofDraft .ticketPull).build = .ok .ticketPull ∧ Draft.ticketPull.Canonical := by
  have built : (ofDraft .ticketPull).build = .ok .ticketPull :=
    (build_ofDraft_eq_self_iff.1 _ ticketPull_readable ticketPull_floatFree).mpr
      ticketPull_canonical
  obtain ⟨canonical, _, rebuilt⟩ := build_ofDraft_eq_self_iff.2 _ _ built
  exact ⟨ticketPull_readable, ticketPull_floatFree, rebuilt ticketPull_floatFree, canonical⟩

end Form

end ConnectorConsole
