import ConnectorConsole.Editor.Submission
import ConnectorConsole.Proofs.Editor.Defaults
import ConnectorConsole.Proofs.Editor.InPlace

/-!
# Defaults filled in place

Defaults are filled in one slot after the other, by a layout that is looked up before the
first of them.  Filling a slot makes its field no longer blank, so that a field is filled
once at most, with the first value that the layout has for it.  A draft is built from a copy
that is filled in this way.  Slots have fields of their own and no default is blank, so that
exactly the blank slots are filled and nothing is left to fill afterwards.
-/

namespace ConnectorConsole

open Text

namespace Form

/-- The form with a field filled, if the field is blank. -/
def fill (form : Form) (field : TextField) (value : String) : Form :=
  if blank (form.text field) then form.setText field value else form

/-- The form with the slots of a list filled in turn. -/
def fillAll (form : Form) (entries : List (DefaultSlot × String)) : Form :=
  entries.foldl (fun form entry => form.fill entry.1.field entry.2) form

section

variable (form : Form) (field : TextField) (value : String)

theorem fill_text (other : TextField) :
    (form.fill field value).text other =
      if other = field ∧ blank (form.text other) = true then value else form.text other := by
  rw [fill]
  split
  next isBlank =>
    by_cases isField : other = field
    · subst isField
      simp [setText, isBlank]
    · simp [setText, isField]
  next filled =>
    have unchanged : ¬(other = field ∧ blank (form.text other) = true) := by
      rintro ⟨rfl, isBlank⟩
      exact filled isBlank
    rw [if_neg unchanged]

theorem fill_selectors : (form.fill field value).mode = form.mode ∧
    (form.fill field value).auth = form.auth ∧
    (form.fill field value).scheduleEnabled = form.scheduleEnabled := by
  rw [fill]
  split <;> exact ⟨rfl, rfl, rfl⟩

end

theorem fillAll_selectors (form : Form) (entries : List (DefaultSlot × String)) :
    (form.fillAll entries).mode = form.mode ∧ (form.fillAll entries).auth = form.auth ∧
      (form.fillAll entries).scheduleEnabled = form.scheduleEnabled := by
  induction entries generalizing form with
  | nil => exact ⟨rfl, rfl, rfl⟩
  | cons entry rest ih =>
      obtain ⟨mode, auth, scheduleEnabled⟩ := form.fill_selectors entry.1.field entry.2
      obtain ⟨restMode, restAuth, restEnabled⟩ := ih (form.fill entry.1.field entry.2)
      exact ⟨restMode.trans mode, restAuth.trans auth, restEnabled.trans scheduleEnabled⟩

/-- A blank field gets the first value that the list has for it. -/
theorem fillAll_text (form : Form) {entries : List (DefaultSlot × String)}
    (filled : ∀ entry ∈ entries, blank entry.2 = false) (field : TextField) :
    (form.fillAll entries).text field =
      match (entries.find? fun entry => entry.1.field == field).map Prod.snd with
      | some value => if blank (form.text field) then value else form.text field
      | none => form.text field := by
  induction entries generalizing form with
  | nil => rfl
  | cons entry rest ih =>
      obtain ⟨entryFilled, restFilled⟩ := List.forall_mem_cons.mp filled
      change (fillAll (form.fill entry.1.field entry.2) rest).text field = _
      rw [ih _ restFilled, fill_text]
      by_cases isField : entry.1.field = field
      · by_cases isBlank : blank (form.text field) = true
        · -- what is filled in is not blank, so that no further entry counts
          rw [if_pos ⟨isField.symm, isBlank⟩, entryFilled]
          cases rest.find? fun entry => entry.1.field == field <;> simp [isField, isBlank]
        · cases rest.find? fun entry => entry.1.field == field <;> simp [isField, isBlank]
      · have other : ¬(field = entry.1.field ∧ blank (form.text field) = true) :=
          fun both => isField both.1.symm
        rw [if_neg other, List.find?_cons_of_neg (by simpa using isField)]

/-- Filling the slots of the layout in turn fills in the defaults. -/
theorem fillAll_defaults (form : Form) : form.fillAll form.layout.defaults = form.applyDefaults := by
  obtain ⟨mode, auth, scheduleEnabled⟩ := form.fillAll_selectors form.layout.defaults
  have filled : ∀ entry ∈ form.layout.defaults, blank entry.2 = false := by
    intro entry member
    obtain ⟨slot, _, rfl⟩ := List.mem_map.mp member
    exact slot.value_not_blank form.mode
  exact Form.ext mode auth scheduleEnabled (funext fun field => form.fillAll_text filled field)

end Form

namespace InPlace

/-- Fill the slots of a list one by one. -/
def fillEach (entries : List (DefaultSlot × String)) : InPlace Unit := do
  for entry in entries do
    modify fun form => form.fill entry.1.field entry.2

/-- Look up the layout, then fill its slots. -/
def fillDefaults : InPlace Unit := do
  fillEach (← get).layout.defaults

/-- Fill in the defaults of a copy, and build the draft of that. -/
def build : InPlace Draft := do
  let (_, copy) := fillDefaults.runOn (← get)
  liftM (copy.assemble.mapError BuildProblem.fault)

variable (form : Form)

theorem runOn_fillEach (entries : List (DefaultSlot × String)) :
    (fillEach entries).runOn form = (.ok (), form.fillAll entries) := by
  induction entries generalizing form with
  | nil => rfl
  | cons entry rest ih =>
      have step : (fillEach (entry :: rest)).runOn form =
          (fillEach rest).runOn (form.fill entry.1.field entry.2) := by
        rw [fillEach, List.forIn_cons]
        rfl
      rw [step, ih]
      rfl

theorem runOn_fillDefaults : fillDefaults.runOn form = (.ok (), form.applyDefaults) := by
  rw [← form.fillAll_defaults, ← runOn_fillEach]
  rfl

/-- Building answers with the draft or the fault, and leaves the form as it was. -/
theorem runOn_build : build.runOn form = (form.draft, form) := by
  change (liftM ((fillDefaults.runOn form).2.assemble.mapError BuildProblem.fault) :
    InPlace Draft).runOn form = _
  rw [runOn_fillDefaults]
  change (liftM form.draft : InPlace Draft).runOn form = _
  cases form.draft <;> rfl

end InPlace

namespace Layout

variable {mode : Mode} {auth : AuthMode}

/-- Slots have fields of their own: a default is the only one for its field. -/
theorem default?_of_mem {entry : DefaultSlot × String}
    (member : entry ∈ (resolve mode auth).defaults) :
    (resolve mode auth).default? entry.1.field = some entry.2 := by
  obtain ⟨slot, filled, rfl⟩ := List.mem_map.mp member
  exact default?_field (List.mem_filter.mp filled).2

theorem mem_of_default? {field : TextField} {value : String}
    (isDefault : (resolve mode auth).default? field = some value) :
    ∃ entry ∈ (resolve mode auth).defaults, entry.1.field = field ∧ entry.2 = value := by
  obtain ⟨entry, found, rfl⟩ := Option.map_eq_some_iff.mp isDefault
  have isField := List.find?_some found
  exact ⟨entry, List.mem_of_find?_eq_some found, beq_iff_eq.mp isField, rfl⟩

theorem not_blank_of_mem {entry : DefaultSlot × String}
    (member : entry ∈ (resolve mode auth).defaults) : blank entry.2 = false := by
  obtain ⟨slot, _, rfl⟩ := List.mem_map.mp member
  exact slot.value_not_blank mode

end Layout

namespace Form

variable (form : Form)

theorem applyDefaults_text_of_mem {entry : DefaultSlot × String}
    (member : entry ∈ form.layout.defaults) :
    form.applyDefaults.text entry.1.field =
      if blank (form.text entry.1.field) then entry.2 else form.text entry.1.field := by
  simp only [applyDefaults, layout, Layout.default?_of_mem member]

theorem applyDefaults_text_of_filled {field : TextField}
    (filled : blank (form.text field) = false) :
    form.applyDefaults.text field = form.text field := by
  simp only [applyDefaults]
  split
  next => rw [filled, if_neg Bool.false_ne_true]
  next => rfl

/-- A field that changes was blank and has a default, which it holds afterwards. -/
theorem default_of_text_ne {field : TextField}
    (changed : form.applyDefaults.text field ≠ form.text field) :
    blank (form.text field) = true ∧
      ∃ entry ∈ form.layout.defaults, entry.1.field = field ∧
        form.applyDefaults.text field = entry.2 := by
  have isBlank : blank (form.text field) = true := by
    by_contra filled
    exact changed (form.applyDefaults_text_of_filled (Bool.eq_false_iff.mpr filled))
  cases isDefault : form.layout.default? field with
  | none => exact absurd (by simp only [applyDefaults, isDefault]) changed
  | some value =>
      obtain ⟨entry, member, rfl, rfl⟩ := Layout.mem_of_default? isDefault
      refine ⟨isBlank, entry, member, rfl, ?_⟩
      rw [form.applyDefaults_text_of_mem member, if_pos isBlank]

theorem applyDefaults_not_blank {entry : DefaultSlot × String}
    (member : entry ∈ form.layout.defaults) :
    blank (form.applyDefaults.text entry.1.field) = false := by
  rw [form.applyDefaults_text_of_mem member]
  split
  next => exact Layout.not_blank_of_mem member
  next filled => exact Bool.eq_false_iff.mpr filled

/-- A blank field of a filled form has no default, so that it stays as it is. -/
theorem applyDefaults_applyDefaults : form.applyDefaults.applyDefaults = form.applyDefaults := by
  refine Form.ext rfl rfl rfl (funext fun field => ?_)
  by_contra changed
  obtain ⟨isBlank, entry, member, rfl, _⟩ := form.applyDefaults.default_of_text_ne changed
  rw [form.applyDefaults_not_blank member] at isBlank
  cases isBlank

/-- Filling in defaults, slot by slot, changes a field only where the layout has a slot for it and
it is blank, and then to the default of that slot.  All blank slots are filled, and the selectors
stay, and so does the layout.  Filling in defaults again changes nothing. -/
theorem blank_slots_filled (form : Form) :
    let filled := form.applyDefaults
    InPlace.fillDefaults.runOn form = (.ok (), filled) ∧
      (∀ field : TextField, filled.text field ≠ form.text field →
        blank (form.text field) = true ∧
          ∃ entry ∈ form.layout.defaults, entry.1.field = field ∧ filled.text field = entry.2) ∧
      (∀ entry ∈ form.layout.defaults, filled.text entry.1.field =
        if blank (form.text entry.1.field) then entry.2 else form.text entry.1.field) ∧
      filled.mode = form.mode ∧ filled.auth = form.auth ∧
      filled.scheduleEnabled = form.scheduleEnabled ∧ filled.layout = form.layout ∧
      (∀ entry ∈ filled.layout.defaults, blank (filled.text entry.1.field) = false) ∧
      filled.applyDefaults = filled := by
  refine ⟨InPlace.runOn_fillDefaults form, ?_, ?_, rfl, rfl, rfl, rfl, ?_, ?_⟩
  · exact fun field changed => form.default_of_text_ne changed
  · exact fun entry member => form.applyDefaults_text_of_mem member
  · exact fun entry member => form.applyDefaults_not_blank member
  · exact form.applyDefaults_applyDefaults

/-- With client credentials in use a blank URL is filled and a method that was typed stays. -/
theorem blank_slots_filled_clientCredentials :
    let form := (((Form.new .restPull).setAuth .clientCredentials).setText .url " \t").setText
      .method "put"
    form.applyDefaults.text .url ≠ form.text .url ∧ blank (form.text .url) = true ∧
      (DefaultSlot.method, "GET") ∈ form.layout.defaults ∧ ¬blank (form.text .method) = true ∧
      form.applyDefaults.text .method = form.text .method ∧
      (DefaultSlot.clientAuthMethod, "client_secret_post") ∈ form.applyDefaults.layout.defaults ∧
      blank (form.applyDefaults.text .clientAuthMethod) = false := by
  intro form
  obtain ⟨-, changes, slots, -, -, -, -, filled, -⟩ := blank_slots_filled form
  have changed : form.applyDefaults.text .url ≠ form.text .url := by decide
  have isSlot : (DefaultSlot.method, "GET") ∈ form.layout.defaults := by decide
  have isSlotAfter : (DefaultSlot.clientAuthMethod, "client_secret_post") ∈
      form.applyDefaults.layout.defaults := by decide
  have typed : ¬blank (form.text .method) = true := by decide
  have method := slots _ isSlot
  have isFilled := filled _ isSlotAfter
  dsimp only [DefaultSlot.field] at method isFilled
  exact ⟨changed, (changes .url changed).1, isSlot, typed, method.trans (if_neg typed),
    isSlotAfter, isFilled⟩

end Form

end ConnectorConsole
