import ConnectorConsole.Editor.Build

/-!
# Hidden fields

A form keeps the text of fields that its layout does not show: those of other
modes, and the client settings while another way of authentication is chosen.
Building reads none of them.  Two forms that look alike build the same draft, or
fail with the same problem.
-/

namespace ConnectorConsole

namespace FieldGroup

theorem mem_all (group : FieldGroup) : group ∈ all := by
  cases group <;> decide

/-- The authentication mode decides what is shown for polled services only. -/
theorem shown_congr {mode : Mode} {auth other : AuthMode}
    (same : mode = .restPull → auth = other) (group : FieldGroup) :
    group.shown mode auth = group.shown mode other := by
  cases mode with
  | restPull => rw [same rfl]
  | sqlPull => cases group <;> rfl
  | restPush => cases group <;> rfl
  | filePull => cases group <;> rfl

end FieldGroup

namespace Layout

@[simp]
theorem resolve_shows (mode : Mode) (auth : AuthMode) (group : FieldGroup) :
    (resolve mode auth).shows group = group.shown mode auth := by
  cases shown : group.shown mode auth <;>
    simp [shows, resolve, shown, FieldGroup.mem_all]

/-- What fills a field is decided by the groups that are shown. -/
theorem default?_congr {mode : Mode} {auth other : AuthMode}
    (same : mode = .restPull → auth = other) (field : TextField) :
    (resolve mode auth).default? field = (resolve mode other).default? field := by
  have filledEq : DefaultSlot.filled mode auth = DefaultSlot.filled mode other := by
    funext slot
    simp only [DefaultSlot.filled, FieldGroup.shown_congr same]
  simp only [default?, resolve, filledEq]

end Layout

namespace Form

/-- Two forms look alike when they agree on the selectors in use, on the switch of
the schedule, on the source type, and on every field of a group that is shown. -/
structure Alike (first second : Form) : Prop where
  mode : first.mode = second.mode
  auth : first.mode = .restPull → first.auth = second.auth
  scheduleEnabled : first.scheduleEnabled = second.scheduleEnabled
  sourceType : first.text .sourceType = second.text .sourceType
  shown : ∀ field : TextField, first.layout.shows field.group = true →
    first.text field = second.text field

namespace Alike

variable {first second : Form}

theorem default?_eq (alike : Alike first second) (field : TextField) :
    first.layout.default? field = second.layout.default? field := by
  rw [layout, layout, ← alike.mode]
  exact Layout.default?_congr alike.auth field

/-- Filling in defaults keeps forms alike. -/
theorem applyDefaults (alike : Alike first second) :
    Alike first.applyDefaults second.applyDefaults := by
  have filled {field : TextField} (same : first.text field = second.text field) :
      first.applyDefaults.text field = second.applyDefaults.text field := by
    simp only [Form.applyDefaults, alike.default?_eq, same]
  exact
    { mode := alike.mode
      auth := alike.auth
      scheduleEnabled := alike.scheduleEnabled
      sourceType := filled alike.sourceType
      shown := fun field shows => filled (alike.shown field shows) }

/-- A field that the mode shows has the same text in both forms. -/
theorem text_eq (alike : Alike first second) {mode : Mode} (modeEq : first.mode = mode)
    (field : TextField) (shown : field.group.shown mode first.auth = true) :
    first.text field = second.text field :=
  alike.shown field (by rw [layout, Layout.resolve_shows, modeEq]; exact shown)

theorem checkSourceType_eq (alike : Alike first second) :
    first.checkSourceType = second.checkSourceType := by
  rw [checkSourceType, checkSourceType, trimmed, trimmed, alike.sourceType, alike.mode]

/-- Where client credentials are in use, the client settings are shown. -/
theorem client_eq (alike : Alike first second) (mode : first.mode = .restPull)
    (auth : first.auth = .clientCredentials) : first.client = second.client := by
  have same (field : TextField) (group : field.group = .oauth) :
      first.text field = second.text field :=
    alike.text_eq mode field (by rw [group, auth]; rfl)
  unfold client trimmed
  rw [same .tokenUrl rfl, same .clientId rfl, same .clientAuthMethod rfl, same .scopes rfl,
    same .audience rfl, same .clientSecretRef rfl]

theorem restAuth_eq (alike : Alike first second) (mode : first.mode = .restPull) :
    first.restAuth = second.restAuth := by
  rw [restAuth, restAuth, ← alike.auth mode]
  cases auth : first.auth with
  | staticBearer => rfl
  | clientCredentials => exact congrArg (Except.map _) (alike.client_eq mode auth)

/-- The source block of a mode is made of fields that the mode shows. -/
theorem source_eq (alike : Alike first second) : first.source = second.source := by
  rw [source, source, ← alike.mode]
  cases mode : first.mode with
  | sqlPull =>
      simp only [trimmed, alike.sourceType, alike.text_eq mode .secretRef rfl,
        alike.text_eq mode .query rfl, alike.text_eq mode .watermarkField rfl]
  | restPull =>
      simp only [trimmed, alike.checkSourceType_eq, alike.restAuth_eq mode,
        alike.text_eq mode .secretRef rfl, alike.text_eq mode .url rfl,
        alike.text_eq mode .method rfl, alike.text_eq mode .watermarkField rfl,
        alike.text_eq mode .payload rfl, alike.text_eq mode .headers rfl,
        alike.text_eq mode .cursorField rfl, alike.text_eq mode .nextCursorPath rfl]
  | restPush =>
      simp only [trimmed, alike.checkSourceType_eq, alike.text_eq mode .secretRef rfl]
  | filePull =>
      unfold trimmed
      rw [alike.checkSourceType_eq, alike.text_eq mode .path rfl, alike.text_eq mode .glob rfl,
        alike.text_eq mode .fileFormat rfl, alike.text_eq mode .watermarkField rfl]

/-- Every mode shows the mapping. -/
theorem mapping_eq (alike : Alike first second) : first.mapping = second.mapping := by
  simp only [mapping, trimmed, alike.text_eq rfl .idField rfl,
    alike.text_eq rfl .titleField rfl, alike.text_eq rfl .contentTemplate rfl,
    alike.text_eq rfl .uriTemplate rfl, alike.text_eq rfl .mimeType rfl,
    alike.text_eq rfl .aclUsersField rfl, alike.text_eq rfl .aclGroupsField rfl,
    alike.text_eq rfl .metadataFields rfl]

theorem assemble_eq (alike : Alike first second) : first.assemble = second.assemble := by
  simp only [assemble, trimmed, alike.source_eq, alike.mapping_eq, alike.scheduleEnabled,
    alike.text_eq rfl .name rfl, alike.text_eq rfl .cron rfl, alike.text_eq rfl .bucket rfl,
    alike.text_eq rfl .folder rfl, alike.text_eq rfl .outputFormat rfl,
    alike.text_eq rfl .projectId rfl, alike.text_eq rfl .location rfl,
    alike.text_eq rfl .dataStoreId rfl, alike.text_eq rfl .deletePolicy rfl]

end Alike

/-- Forms that look alike build the same draft or fail alike, whatever stands in the
fields of other modes and in the client settings that are not in use. -/
theorem build_eq_of_alike {first second : Form} (alike : Alike first second) :
    first.build = second.build :=
  alike.applyDefaults.assemble_eq

/-- A database does not depend on a payload that is not JSON, nor on half-filled
client settings that would be in use for a polled service. -/
theorem build_eq_of_alike_malformed_payload :
    let plain : Form := (Form.new .sqlPull).setText .secretRef "hr-db"
    let stuffed : Form := (((plain.setAuth .clientCredentials).setText .payload "\x7b").setText
      .clientAuthMethod "unknown")
    Alike plain stuffed ∧ plain.text .payload ≠ stuffed.text .payload ∧
      plain.build = stuffed.build := by
  intro plain stuffed
  have alike : Alike plain stuffed :=
    { mode := rfl
      auth := fun polled => nomatch polled
      scheduleEnabled := rfl
      sourceType := rfl
      shown := fun field shows => by
        cases field <;> first | rfl | exact absurd shows (by decide) }
  exact ⟨alike, by decide, build_eq_of_alike alike⟩

end Form

end ConnectorConsole
