import ConnectorConsole.Editor.Build
import ConnectorConsole.Proofs.Connector.WrittenForm
import ConnectorConsole.Proofs.Json.ForeignEntries
import ConnectorConsole.Proofs.Text.Trimming

/-!
# Foreign source types

The editor refuses every source type that is not of its mode.  A source block that is read
is refused for it in the mode over databases only, where the type names the engine.  The blocks
of the other modes have no setting of that name: they are read as if the type were not
there, and are written with the one source type of their mode.
-/

namespace ConnectorConsole

open Json Decoder Fields

/-- A text that is not a name is refused when it is read. -/
theorem Named.read_of_not_mem {α : Type} [Named α] {text : String}
    (unknown : text ∉ (all : List α).map name) :
    (read text : Except String α) = .error (complaint α text (listing α)) := by
  have notFound : (ofName? text : Option α) = none := by
    rw [ofName?, choices, List.lookup_eq_none_iff]
    intro choice member
    obtain ⟨value, isValue, rfl⟩ := List.mem_map.mp member
    have differs : text ≠ name value := by
      rintro rfl
      exact unknown (List.mem_map_of_mem isValue)
    exact bne_iff_ne.mpr differs
  rw [read, notFound]

namespace Mode

/-- A text is foreign to a mode when it names something, but no source type of the mode. -/
def Foreign (mode : Mode) (text : String) : Prop :=
  Text.trim text ≠ "" ∧ Text.trim text ∉ mode.sourceTypes

instance (mode : Mode) (text : String) : Decidable (mode.Foreign text) :=
  inferInstanceAs (Decidable (_ ∧ _))

/-- How a form of a mode is refused for a foreign source type. -/
def refusal (mode : Mode) (given : String) : BuildProblem :=
  match mode with
  | .sqlPull => .unknownName (Named.complaint SqlEngine given (Named.listing SqlEngine))
  | mode => .wrongSourceType mode given

theorem trim_of_mem_sourceTypes {mode : Mode} {text : String} (offered : text ∈ mode.sourceTypes) :
    Text.trim text = text := by
  have allTrimmed : ∀ offered ∈ mode.sourceTypes, Text.trim offered = offered := by
    cases mode <;> decide
  exact allTrimmed text offered

theorem Foreign.not_mem {mode : Mode} {text : String} (foreign : mode.Foreign text) :
    text ∉ mode.sourceTypes := by
  intro offered
  have isForeign := foreign.2
  rw [trim_of_mem_sourceTypes offered] at isForeign
  exact isForeign offered

end Mode

namespace Form

variable {form : Form}

theorem checkSourceType_of_foreign (foreign : form.mode.Foreign (form.text .sourceType)) :
    form.checkSourceType = .error (.wrongSourceType form.mode (form.trimmed .sourceType)) := by
  have refused : ¬(form.trimmed .sourceType = "" ∨
      form.trimmed .sourceType ∈ form.mode.sourceTypes) :=
    not_or.mpr foreign
  rw [checkSourceType]
  exact if_neg refused

/-- The source type is looked at before any other setting of the source. -/
theorem source_of_foreign (foreign : form.mode.Foreign (form.text .sourceType)) :
    form.source = .error (form.mode.refusal (form.trimmed .sourceType)) := by
  have refused := checkSourceType_of_foreign foreign
  rw [source]
  cases mode : form.mode with
  | sqlPull =>
      have unknown : form.trimmed .sourceType ∉ (Named.all : List SqlEngine).map Named.name := by
        have isForeign := foreign.2
        rw [mode] at isForeign
        exact isForeign
      dsimp only
      rw [readName, Named.read_of_not_mem unknown]
      rfl
  | _ =>
      dsimp only
      rw [refused, mode]
      rfl

theorem applyDefaults_text_of_not_blank {field : TextField}
    (filled : Text.blank (form.text field) = false) :
    form.applyDefaults.text field = form.text field := by
  simp only [applyDefaults, filled]
  split <;> rfl

/-- No default hides a foreign source type. -/
theorem build_of_foreign (foreign : form.mode.Foreign (form.text .sourceType)) :
    form.build = .error (form.mode.refusal (form.trimmed .sourceType)) := by
  have filled : Text.blank (form.text .sourceType) = false :=
    Bool.eq_false_iff.mpr (mt Text.trim_eq_empty_iff.mpr foreign.1)
  have sameText := applyDefaults_text_of_not_blank filled
  have stillForeign :
      form.applyDefaults.mode.Foreign (form.applyDefaults.text .sourceType) := by
    rw [sameText]
    exact foreign
  rw [build, assemble, source_of_foreign stillForeign, trimmed, sameText]
  rfl

end Form

instance (name : String) : (textOr name).Local :=
  inferInstanceAs ((fun value => value.getD "") <$> Fields.optional name Decoder.text).Local

namespace Source

variable {mode : Mode} {entries : List (String × Json)}

/-- The block of a database source is refused when its type names no engine. -/
theorem ofJson_sqlPull_of_unknown {text : String}
    (isType : entries.lookup "type" = some (.text text))
    (unknown : text ∉ Mode.sqlPull.sourceTypes) :
    ∃ problem, Source.ofJson .sqlPull (.object entries) = .error problem := by
  cases decodes : SqlSource.decoder.ofJson (.object entries) with
  | error problem =>
      refine ⟨.malformed .sqlPull problem, ?_⟩
      rw [Source.ofJson, decodes]
      rfl
  | ok outcome =>
      -- the fields are taken off from the last one to the first, which is the type
      have builds := build_of_record_ofJson_object decodes
      obtain ⟨_, watermarkField, threeFields, -, rfl⟩ := ok_of_build_seq builds
      obtain ⟨_, query, twoFields, -, rfl⟩ := ok_of_build_seq threeFields
      obtain ⟨_, secretRef, oneField, -, rfl⟩ := ok_of_build_seq twoFields
      obtain ⟨engine, isEngine, rfl⟩ := ok_of_build_map oneField
      rw [build_required, isType] at isEngine
      cases isEngine
      refine ⟨.unknownEngine (Named.complaint SqlEngine text (Named.listing SqlEngine)), ?_⟩
      rw [Source.ofJson, decodes, Named.read_of_not_mem unknown]
      rfl

/-- Only the mode over databases has a setting for the type. -/
theorem ofJson_without_type (other : mode ≠ .sqlPull) (entries : List (String × Json)) :
    Source.ofJson mode (.object (entries.filter fun entry => entry.1 ≠ "type")) =
      Source.ofJson mode (.object entries) := by
  cases mode with
  | sqlPull => exact absurd rfl other
  | restPull => rw [ofJson, ofJson, RestPullSource.decoder, record_ofJson_filter (by decide)]
  | restPush => rw [ofJson, ofJson, RestPushSource.decoder, record_ofJson_filter (by decide)]
  | filePull => rw [ofJson, ofJson, FileSource.decoder, record_ofJson_filter (by decide)]

theorem mode_of_ofJson {value : Json} {source : Source}
    (decodes : Source.ofJson mode value = .ok source) : source.mode = mode := by
  cases mode with
  | sqlPull =>
      obtain ⟨_, _, decodes⟩ := ok_of_bind decodes
      obtain ⟨_, _, isSource⟩ := ok_of_bind decodes
      cases isSource
      rfl
  | _ =>
      obtain ⟨_, _, isSource⟩ := ok_of_bind decodes
      cases isSource
      rfl

/-- The type that is written is that of the mode. -/
theorem written_type {source : Source} (other : source.mode ≠ .sqlPull) :
    source.toJson.get? "type" = some (.text source.mode.firstSourceType) := by
  cases source with
  | sqlPull => exact absurd rfl other
  | restPull source =>
      cases auth : source.auth <;>
        simp [toJson, get?, RestAuth.entries, auth, lookup_cons, Source.mode, Mode.firstSourceType]
  | _ => rfl

end Source

namespace Mode

/-- A form with a foreign source type builds nothing.  A source block with one is refused in the
mode over databases.  In the other modes the block is read as if it had no type, and what is
read is written with the source type of the mode. -/
theorem foreign_source_types {mode : Mode} {text : String} (foreign : mode.Foreign text) :
    (∀ form : Form, form.mode = mode → form.text .sourceType = text →
      form.source = .error (mode.refusal (Text.trim text)) ∧
        form.build = .error (mode.refusal (Text.trim text))) ∧
    ∀ entries : List (String × Json), entries.lookup "type" = some (.text text) →
      (mode = .sqlPull → ∃ problem, Source.ofJson mode (.object entries) = .error problem) ∧
      (mode ≠ .sqlPull →
        Source.ofJson mode (.object entries) =
            Source.ofJson mode (.object (entries.filter fun entry => entry.1 ≠ "type")) ∧
          ∀ source, Source.ofJson mode (.object entries) = .ok source →
            source.toJson.get? "type" = some (.text mode.firstSourceType)) := by
  constructor
  · rintro form rfl rfl
    exact ⟨Form.source_of_foreign foreign, Form.build_of_foreign foreign⟩
  · intro entries isType
    constructor
    · rintro rfl
      exact Source.ofJson_sqlPull_of_unknown isType foreign.not_mem
    · intro other
      refine ⟨(Source.ofJson_without_type other entries).symm, fun source decodes => ?_⟩
      obtain rfl := Source.mode_of_ofJson decodes
      exact Source.written_type other

/-- A block of a polled service that names a database engine is one without a type. -/
theorem foreign_source_types_engine :
    let entries : List (String × Json) := [("secretRef", .text "token"), ("type", .text "postgres")]
    let form := (Form.new .restPull).setText .sourceType "postgres"
    Mode.restPull.Foreign "postgres" ∧
      form.build = .error (.wrongSourceType .restPull "postgres") ∧
      Source.ofJson .restPull (.object entries) =
        Source.ofJson .restPull (.object [("secretRef", .text "token")]) := by
  intro entries form
  have foreign : Mode.restPull.Foreign "postgres" := by decide
  obtain ⟨forms, blocks⟩ := foreign_source_types foreign
  refine ⟨foreign, (forms form rfl rfl).2, ?_⟩
  exact ((blocks entries rfl).2 (by decide)).1

/-- A block of a polled service, a pushing caller or a directory is read whatever type it
names. -/
theorem foreign_source_types_accepted :
    (Mode.restPull.Foreign "postgres" ∧
      (Source.ofJson .restPull (.object [("type", .text "postgres")])).isOk = true) ∧
    (Mode.restPush.Foreign "file" ∧
      (Source.ofJson .restPush (.object [("type", .text "file")])).isOk = true) ∧
    (Mode.filePull.Foreign "http" ∧
      (Source.ofJson .filePull (.object [("type", .text "http")])).isOk = true) := by
  refine ⟨⟨by decide, rfl⟩, ⟨by decide, rfl⟩, ⟨by decide, rfl⟩⟩

end Mode

end ConnectorConsole
