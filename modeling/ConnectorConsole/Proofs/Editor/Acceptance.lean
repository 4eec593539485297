import ConnectorConsole.Proofs.Editor.CanonicalDrafts
import ConnectorConsole.Proofs.Editor.Filling
import Mathlib.Tactic.MkIffOfInductiveProp

/-!
# Which forms build

A form builds a draft when each setting that is looked at is left blank, where that is allowed,
or holds one of the names that are known for it, and when the payload and the headers of a
polled service are JSON of the right kind.  The source is looked at first, and in it the type,
then the authentication, then the payload and the headers.  A form is therefore unreadable
only when nothing that is looked at before those two is wrong, and invalid in every other case.
-/

namespace ConnectorConsole

open Text

namespace Named

def names (α : Type) [Named α] : List String :=
  (all : List α).map name

theorem ofName?_eq_none_iff {α : Type} [Named α] {text : String} :
    (ofName? text : Option α) = none ↔ text ∉ names α := by
  rw [ofName?, choices, List.lookup_eq_none_iff]
  constructor
  · intro differs isName
    obtain ⟨value, offered, rfl⟩ := List.mem_map.mp isName
    exact absurd (differs _ (List.mem_map_of_mem offered)) (by simp)
  · intro unknown choice member
    obtain ⟨value, offered, rfl⟩ := List.mem_map.mp member
    exact bne_iff_ne.mpr fun isName => unknown (isName ▸ List.mem_map_of_mem offered)

theorem mem_names_of_ofName? {α : Type} [Named α] {text : String} {value : α}
    (found : ofName? text = some value) : text ∈ names α := by
  by_contra unknown
  rw [ofName?_eq_none_iff.mpr unknown] at found
  cases found

end Named

/-- A text that is blank or, once trimmed, one of some names. -/
def Text.BlankOrAmong (names : List String) (text : String) : Prop :=
  blank text = true ∨ trim text ∈ names

theorem Text.blankOrAmong_of_not_blank {names : List String} {text : String}
    (filled : blank text = false) : BlankOrAmong names text ↔ trim text ∈ names := by
  simp [BlankOrAmong, filled]

def Form.PayloadText (text : String) : Prop :=
  blank text = true ∨ Json.read text = .ok .null ∨
    ∃ entries, Json.read text = .ok (.object entries)

def Form.HeadersText (text : String) : Prop :=
  blank text = true ∨ ∃ entries, Json.read text = .ok (.object entries)

@[mk_iff]
structure Form.ClientComplete (form : Form) : Prop where
  tokenUrl : blank (form.text .tokenUrl) = false
  clientId : blank (form.text .clientId) = false
  method : BlankOrAmong ["client_secret_post", "client_secret_basic"]
    (form.text .clientAuthMethod)

@[mk_iff]
structure Form.SourceAcceptable (form : Form) : Prop where
  sourceType : BlankOrAmong form.mode.sourceTypes (form.text .sourceType)
  client : form.mode = .restPull → form.auth = .clientCredentials → form.ClientComplete
  payload : form.mode = .restPull → PayloadText (form.text .payload)
  headers : form.mode = .restPull → HeadersText (form.text .headers)
  path : form.mode = .filePull → blank (form.text .path) = false
  fileFormat : form.mode = .filePull →
    BlankOrAmong ["csv", "json", "ndjson"] (form.text .fileFormat)

/-- A form that builds. -/
@[mk_iff]
structure Form.Acceptable (form : Form) : Prop extends SourceAcceptable form where
  deletePolicy : BlankOrAmong ["auto_delete_missing", "soft_delete_only", "never_delete"]
    (form.text .deletePolicy)
  outputFormat : BlankOrAmong ["ndjson"] (form.text .outputFormat)

/-- A form over a polled service whose type and authentication are in order, while its payload
or its headers are not. -/
@[mk_iff]
structure Form.Garbled (form : Form) : Prop where
  mode : form.mode = .restPull
  sourceType : BlankOrAmong form.mode.sourceTypes (form.text .sourceType)
  client : form.auth = .clientCredentials → form.ClientComplete
  offender : ¬PayloadText (form.text .payload) ∨ ¬HeadersText (form.text .headers)

/-- What becomes of an outcome under two conditions: under the first it has a value, under the
second it is unreadable, and under neither it is invalid. -/
inductive Judged {α : Type} (outcome : Except BuildProblem α) (accepted garbled : Prop) : Prop where
  | built (value : α) (isValue : outcome = .ok value) (holds : accepted) (clear : ¬garbled)
  | unreadable {problem : BuildProblem} {message : String} (refused : outcome = .error problem)
      (kind : problem.fault = .unreadable message) (fails : ¬accepted) (holds : garbled)
  | invalid {problem : BuildProblem} {message : String} (refused : outcome = .error problem)
      (kind : problem.fault = .invalid message) (fails : ¬accepted) (clear : ¬garbled)

namespace Judged

variable {α β : Type} {outcome : Except BuildProblem α} {accepted garbled : Prop}

theorem congr (judged : Judged outcome accepted garbled) {otherAccepted otherGarbled : Prop}
    (sameAccepted : accepted ↔ otherAccepted) (sameGarbled : garbled ↔ otherGarbled) :
    Judged outcome otherAccepted otherGarbled := by
  rw [← propext sameAccepted, ← propext sameGarbled]
  exact judged

theorem ok (value : α) : Judged (.ok value) True False :=
  .built value rfl trivial not_false

theorem reads {value : α} (isValue : outcome = .ok value) (holds : accepted) :
    Judged outcome accepted (¬accepted) :=
  .built value isValue holds (not_not_intro holds)

theorem garbles {problem : BuildProblem} {message : String} (refused : outcome = .error problem)
    (kind : problem.fault = .unreadable message) (fails : ¬accepted) :
    Judged outcome accepted (¬accepted) :=
  .unreadable refused kind fails fails

/-- What comes second is looked at only when the first has a value. -/
theorem bind (first : Judged outcome accepted garbled) {rest : α → Except BuildProblem β}
    {accepted' garbled' : Prop} (second : ∀ value, Judged (rest value) accepted' garbled') :
    Judged (outcome >>= rest) (accepted ∧ accepted') (garbled ∨ accepted ∧ garbled') := by
  cases first with
  | built value isValue holds clear =>
      subst isValue
      exact (second value).congr (by simp [holds]) (by simp [holds, clear])
  | unreadable refused kind fails holds =>
      subst refused
      exact .unreadable rfl kind (fun both => fails both.1) (.inl holds)
  | invalid refused kind fails clear =>
      subst refused
      exact .invalid rfl kind (fun both => fails both.1)
        (fun either => either.elim clear fun both => fails both.1)

/-- The class of the fault tells which condition holds. -/
theorem mapError_iff (judged : Judged outcome accepted garbled) :
    ((∃ value, outcome.mapError BuildProblem.fault = .ok value) ↔ accepted) ∧
    ((∃ message, outcome.mapError BuildProblem.fault = .error (.unreadable message)) ↔ garbled) ∧
    ((∃ message, outcome.mapError BuildProblem.fault = .error (.invalid message)) ↔
      ¬accepted ∧ ¬garbled) := by
  cases judged with
  | built value isValue holds clear => simp [isValue, Except.mapError, holds, clear]
  | unreadable refused kind fails holds => simp [refused, Except.mapError, kind, fails, holds]
  | invalid refused kind fails clear => simp [refused, Except.mapError, kind, fails, clear]

end Judged

namespace Form

section Parts

variable (form : Form)

theorem judged_readName {α : Type} [Named α] (text : String) :
    Judged (readName text : Except BuildProblem α) (text ∈ Named.names α) False := by
  rw [readName, Named.read]
  cases found : (Named.ofName? text : Option α) with
  | none => exact .invalid rfl rfl (Named.ofName?_eq_none_iff.mp found) not_false
  | some value => exact .built value rfl (Named.mem_names_of_ofName? found) not_false

theorem trimmed_eq_empty_iff {form : Form} {field : TextField} :
    form.trimmed field = "" ↔ blank (form.text field) = true :=
  trim_eq_empty_iff

theorem judged_checkSourceType :
    Judged form.checkSourceType (BlankOrAmong form.mode.sourceTypes (form.text .sourceType))
      False := by
  have admits : BlankOrAmong form.mode.sourceTypes (form.text .sourceType) ↔
      form.trimmed .sourceType = "" ∨ form.trimmed .sourceType ∈ form.mode.sourceTypes := by
    rw [BlankOrAmong, trimmed_eq_empty_iff]
    rfl
  rw [checkSourceType]
  split
  next admitted => exact .built () rfl (admits.mpr admitted) not_false
  next foreign => exact .invalid rfl rfl (mt admits.mp foreign) not_false

theorem judged_client : Judged form.client form.ClientComplete False := by
  rw [client]
  split
  next empty =>
    have missing := trimmed_eq_empty_iff.mp empty
    exact .invalid rfl rfl (fun complete => by simp [complete.tokenUrl] at missing) not_false
  next tokenUrl =>
  dsimp only
  split
  next empty =>
    have missing := trimmed_eq_empty_iff.mp empty
    exact .invalid rfl rfl (fun complete => by simp [complete.clientId] at missing) not_false
  next clientId =>
  rw [trimmed_eq_empty_iff, Bool.not_eq_true] at tokenUrl clientId
  have complete_iff : BlankOrAmong (Named.names ClientAuthMethod) (form.text .clientAuthMethod) ↔
      form.ClientComplete :=
    ⟨fun method => ⟨tokenUrl, clientId, method⟩, ClientComplete.method⟩
  split
  next empty =>
    exact .built _ rfl (complete_iff.mp (.inl (trimmed_eq_empty_iff.mp empty))) not_false
  next method =>
    rw [trimmed_eq_empty_iff, Bool.not_eq_true] at method
    refine Judged.congr ((judged_readName _).bind fun _ => .ok _) ?_ (by simp)
    rw [and_true, ← complete_iff, blankOrAmong_of_not_blank method]
    rfl

theorem judged_restAuth :
    Judged form.restAuth (form.auth = .clientCredentials → form.ClientComplete) False := by
  rw [restAuth]
  cases form.auth with
  | staticBearer => exact (Judged.ok _).congr (by simp) Iff.rfl
  | clientCredentials =>
      have mapped := form.judged_client.bind fun client =>
        Judged.ok (RestAuth.clientCredentials client)
      exact mapped.congr (by simp) (by simp)

theorem judged_readPayload (text : String) :
    Judged (readPayload text) (PayloadText text) (¬PayloadText text) := by
  rw [readPayload]
  split
  next isBlank => exact .reads rfl (.inl isBlank)
  next filled =>
    cases isRead : Json.read text with
    | error failure => exact .garbles rfl rfl (by simp [PayloadText, filled, isRead])
    | ok value =>
        cases value with
        | null => exact .reads rfl (.inr (.inl isRead))
        | object entries => exact .reads rfl (.inr (.inr ⟨entries, isRead⟩))
        | _ => exact .garbles rfl rfl (by simp [PayloadText, filled, isRead])

theorem judged_readHeaders (text : String) :
    Judged (readHeaders text) (HeadersText text) (¬HeadersText text) := by
  rw [readHeaders]
  split
  next isBlank => exact .reads rfl (.inl isBlank)
  next filled =>
    cases isRead : Json.read text with
    | error failure => exact .garbles rfl rfl (by simp [HeadersText, filled, isRead])
    | ok value =>
        cases value with
        | object entries => exact .reads rfl (.inr ⟨entries, isRead⟩)
        | _ => exact .garbles rfl rfl (by simp [HeadersText, filled, isRead])

end Parts

section Source

variable {form : Form}

theorem blankOrAmong_of_defaulted (defaulted : form.Defaulted) (slot : DefaultSlot)
    (filled : slot.filled form.mode form.auth = true) (names : List String) :
    BlankOrAmong names (form.text slot.field) ↔ form.trimmed slot.field ∈ names :=
  blankOrAmong_of_not_blank (defaulted slot filled)

theorem judged_source (defaulted : form.Defaulted) :
    Judged form.source form.SourceAcceptable form.Garbled := by
  have checked := form.judged_checkSourceType
  rw [source]
  cases mode : form.mode with
  | sqlPull =>
      have isType := blankOrAmong_of_defaulted defaulted .sourceType rfl form.mode.sourceTypes
      refine Judged.congr ((judged_readName _).bind fun _ => .ok _) ?_ (by simp [garbled_iff, mode])
      have acceptable : form.SourceAcceptable ↔
          BlankOrAmong form.mode.sourceTypes (form.text .sourceType) := by
        simp [sourceAcceptable_iff, mode]
      rw [and_true, acceptable]
      refine Iff.trans ?_ isType.symm
      rw [mode]
      rfl
  | restPull =>
      refine Judged.congr (checked.bind fun _ => form.judged_restAuth.bind fun _ =>
        (judged_readPayload _).bind fun _ => (judged_readHeaders _).bind fun _ => .ok _) ?_ ?_
      · simp [sourceAcceptable_iff, mode]
      · -- the headers are looked at only when the payload is in order
        have either (payload headers : Prop) :
            ¬payload ∨ payload ∧ ¬headers ↔ ¬payload ∨ ¬headers := by
          rw [or_and_left, and_iff_right (em' payload)]
        simp [garbled_iff, mode, either]
  | restPush =>
      refine Judged.congr (checked.bind fun _ => .ok _) ?_ (by simp [garbled_iff, mode])
      simp [sourceAcceptable_iff, mode]
  | filePull =>
      have isFormat := blankOrAmong_of_defaulted defaulted .fileFormat (by rw [mode]; rfl)
        (Named.names FileFormat)
      refine Judged.congr (checked.bind fun _ => (?_ : Judged _ (blank (form.text .path) = false ∧
        form.trimmed .fileFormat ∈ Named.names FileFormat) False)) ?_ (by simp [garbled_iff, mode])
      · split
        next empty =>
          exact .invalid rfl rfl (by simp [trimmed_eq_empty_iff.mp empty]) not_false
        next path =>
          rw [trimmed_eq_empty_iff, Bool.not_eq_true] at path
          exact Judged.congr ((judged_readName _).bind fun _ => .ok _) (by simp [path]) (by simp)
      · have acceptable : form.SourceAcceptable ↔
            BlankOrAmong form.mode.sourceTypes (form.text .sourceType) ∧
              blank (form.text .path) = false ∧
              BlankOrAmong ["csv", "json", "ndjson"] (form.text .fileFormat) := by
          simp [sourceAcceptable_iff, mode]
        rw [acceptable]
        exact and_congr_right' (and_congr_right' isFormat.symm)

theorem judged_assemble (defaulted : form.Defaulted) :
    Judged form.assemble form.Acceptable form.Garbled := by
  have isPolicy := blankOrAmong_of_defaulted defaulted .deletePolicy rfl (Named.names DeletePolicy)
  have isFormat := blankOrAmong_of_defaulted defaulted .outputFormat rfl (Named.names OutputFormat)
  rw [assemble]
  refine Judged.congr ((judged_source defaulted).bind fun _ => (judged_readName _).bind fun _ =>
    (?_ : Judged _ (form.trimmed .outputFormat ∈ Named.names OutputFormat) False)) ?_ (by simp)
  · split
    next format found => exact .built _ rfl (Named.mem_names_of_ofName? found) not_false
    next found => exact .invalid rfl rfl (Named.ofName?_eq_none_iff.mp found) not_false
  · rw [acceptable_iff]
    exact and_congr_right' (and_congr isPolicy.symm isFormat.symm)

end Source

theorem applyDefaults_text_of_no_slot (form : Form) (field : TextField)
    (noSlot : ∀ slot : DefaultSlot, slot.field ≠ field) :
    form.applyDefaults.text field = form.text field := by
  simp only [applyDefaults]
  split
  next value default =>
    obtain ⟨slot, _, isField, _⟩ := Layout.slot_of_default? default
    exact absurd isField (noSlot slot)
  next => rfl

/-- A blank that gives way to one of the names was admitted like the name. -/
theorem blankOrAmong_applyDefaults (form : Form) (slot : DefaultSlot) {names : List String}
    (offered : trim (slot.value form.mode) ∈ names) :
    BlankOrAmong names (form.applyDefaults.text slot.field) ↔
      BlankOrAmong names (form.text slot.field) := by
  simp only [applyDefaults]
  split
  next value default =>
    obtain ⟨other, _, isField, rfl⟩ := Layout.slot_of_default? default
    obtain rfl : other = slot := by cases other <;> cases slot <;> first | rfl | cases isField
    split
    next isBlank => exact ⟨fun _ => .inl isBlank, fun _ => .inr offered⟩
    next => rfl
  next => rfl

section Defaults

variable (form : Form)

theorem sourceType_applyDefaults :
    BlankOrAmong form.mode.sourceTypes (form.applyDefaults.text .sourceType) ↔
      BlankOrAmong form.mode.sourceTypes (form.text .sourceType) := by
  have offered : trim form.mode.firstSourceType ∈ form.mode.sourceTypes := by
    cases form.mode <;> decide
  exact form.blankOrAmong_applyDefaults .sourceType offered

theorem clientComplete_applyDefaults :
    form.applyDefaults.ClientComplete ↔ form.ClientComplete := by
  have tokenUrl := form.applyDefaults_text_of_no_slot .tokenUrl (by rintro ⟨⟩ ⟨⟩)
  have clientId := form.applyDefaults_text_of_no_slot .clientId (by rintro ⟨⟩ ⟨⟩)
  have method := form.blankOrAmong_applyDefaults .clientAuthMethod
    (show trim "client_secret_post" ∈ Named.names ClientAuthMethod by decide)
  rw [clientComplete_iff, clientComplete_iff, tokenUrl, clientId]
  exact and_congr_right' (and_congr_right' method)

theorem sourceAcceptable_applyDefaults :
    form.applyDefaults.SourceAcceptable ↔ form.SourceAcceptable := by
  have sourceType := form.sourceType_applyDefaults
  have client := form.clientComplete_applyDefaults
  have payload := form.applyDefaults_text_of_no_slot .payload (by rintro ⟨⟩ ⟨⟩)
  have headers := form.applyDefaults_text_of_no_slot .headers (by rintro ⟨⟩ ⟨⟩)
  have path := form.applyDefaults_text_of_no_slot .path (by rintro ⟨⟩ ⟨⟩)
  have fileFormat := form.blankOrAmong_applyDefaults .fileFormat
    (show trim "csv" ∈ Named.names FileFormat by decide)
  rw [sourceAcceptable_iff, sourceAcceptable_iff, client, payload, headers, path]
  refine and_congr sourceType (and_congr_right' (and_congr_right' ?_))
  exact and_congr_right' (and_congr_right' (imp_congr_right fun _ => fileFormat))

theorem acceptable_applyDefaults : form.applyDefaults.Acceptable ↔ form.Acceptable := by
  have policy := form.blankOrAmong_applyDefaults .deletePolicy
    (show trim "auto_delete_missing" ∈ Named.names DeletePolicy by decide)
  have format := form.blankOrAmong_applyDefaults .outputFormat
    (show trim "ndjson" ∈ Named.names OutputFormat by decide)
  rw [acceptable_iff, acceptable_iff, sourceAcceptable_applyDefaults]
  exact and_congr_right' (and_congr policy format)

theorem garbled_applyDefaults : form.applyDefaults.Garbled ↔ form.Garbled := by
  have sourceType := form.sourceType_applyDefaults
  have client := form.clientComplete_applyDefaults
  have payload := form.applyDefaults_text_of_no_slot .payload (by rintro ⟨⟩ ⟨⟩)
  have headers := form.applyDefaults_text_of_no_slot .headers (by rintro ⟨⟩ ⟨⟩)
  rw [garbled_iff, garbled_iff, client, payload, headers]
  exact and_congr_right' (and_congr_left' sourceType)

end Defaults

/-- A form builds exactly when it is acceptable.  When it does not, the fault says that a text is
unreadable exactly when the form is garbled, and that the form is invalid otherwise.  Building
leaves the form as it was. -/
theorem build_accepts_iff (form : Form) :
    ((∃ draft, form.draft = .ok draft) ↔ form.Acceptable) ∧
    ((∃ message, form.draft = .error (.unreadable message)) ↔ form.Garbled) ∧
    ((∃ message, form.draft = .error (.invalid message)) ↔ ¬form.Acceptable ∧ ¬form.Garbled) ∧
    InPlace.build.runOn form = (form.draft, form) := by
  have judged : Judged form.build form.Acceptable form.Garbled :=
    (judged_assemble form.defaulted_applyDefaults).congr form.acceptable_applyDefaults
      form.garbled_applyDefaults
  obtain ⟨accepted, unreadable, invalid⟩ := judged.mapError_iff
  exact ⟨accepted, unreadable, invalid, InPlace.runOn_build form⟩

end Form

end ConnectorConsole
