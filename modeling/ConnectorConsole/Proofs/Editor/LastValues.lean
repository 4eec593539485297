import ConnectorConsole.Proofs.Editor.Assignments
import ConnectorConsole.Proofs.Editor.Edits
import ConnectorConsole.Proofs.Editor.InPlace
import ConnectorConsole.Proofs.Json.Records

/-!
# Keys as storage

Every key of the editor but the one of the mode names a place of its own: an assignment
changes what is under its key and nothing else.  After a list of such assignments the form has
under each key what the last value given to it stands for, and otherwise what it had at the
start, so that assignments to different keys may trade places.
-/

namespace ConnectorConsole

namespace EditorKey

theorem key_of_ofKey? {text : String} {named : EditorKey} (found : ofKey? text = some named) :
    named.key = text := by
  unfold ofKey? at found
  split_ifs at found with isMode isAuth isSwitch
  · cases found
    exact isMode.symm
  · cases found
    exact isAuth.symm
  · cases found
    exact isSwitch.symm
  · obtain ⟨field, isField, rfl⟩ := Option.map_eq_some_iff.mp found
    have isKey := List.find?_some isField
    exact beq_iff_eq.mp isKey

theorem key_injective {named other : EditorKey} (same : named.key = other.key) : named = other := by
  have found := ofKey?_key named
  rw [same, ofKey?_key other] at found
  exact (Option.some.inj found).symm

end EditorKey

namespace Form

variable {start form other next : Form} {key value : String} {named : EditorKey}

/-- A form has under a key what a text stands for. -/
def Holds (form : Form) (value : String) : EditorKey → Prop
  | .mode => Named.read (Text.trim value) = .ok form.mode
  | .auth => Named.read (Text.trim value) = .ok form.auth
  | .scheduleEnabled => readSwitch? value = some form.scheduleEnabled
  | .field field => form.text field = value

/-- Two forms have the same under a key. -/
def SameAt (form other : Form) : EditorKey → Prop
  | .mode => form.mode = other.mode
  | .auth => form.auth = other.auth
  | .scheduleEnabled => form.scheduleEnabled = other.scheduleEnabled
  | .field field => form.text field = other.text field

theorem SameAt.refl (form : Form) (named : EditorKey) : form.SameAt form named := by
  cases named <;> rfl

theorem SameAt.trans {last : Form} (first : form.SameAt other named)
    (second : other.SameAt last named) : form.SameAt last named := by
  cases named <;> exact Eq.trans first second

theorem SameAt.symm (same : form.SameAt other named) : other.SameAt form named := by
  cases named <;> exact Eq.symm same

theorem eq_of_sameAt (same : ∀ named, form.SameAt other named) : form = other :=
  Form.ext (same .mode) (same .auth) (same .scheduleEnabled)
    (funext fun field => same (.field field))

theorem Holds.sameAt (held : form.Holds value named) (otherHeld : other.Holds value named) :
    form.SameAt other named := by
  cases named with
  | mode => exact Except.ok.inj (held.symm.trans otherHeld)
  | auth => exact Except.ok.inj (held.symm.trans otherHeld)
  | scheduleEnabled => exact Option.some.inj (held.symm.trans otherHeld)
  | field field => exact held.trans otherHeld.symm

theorem Holds.of_sameAt (held : form.Holds value named) (same : other.SameAt form named) :
    other.Holds value named := by
  cases named with
  | mode => exact held.trans (congrArg Except.ok same.symm)
  | auth => exact held.trans (congrArg Except.ok same.symm)
  | scheduleEnabled => exact held.trans (congrArg some same.symm)
  | field field => exact Eq.trans same held

/-- All that an assignment can do when it is accepted. -/
theorem assign_eq_ok (assigned : form.assign key value = .ok next) :
    (∃ field : TextField, key = field.key ∧ next = form.setText field value) ∨
    (∃ mode, key = "mode" ∧ Named.read (Text.trim value) = .ok mode ∧ next = form.setMode mode) ∨
    (∃ auth, key = "source.auth" ∧ Named.read (Text.trim value) = .ok auth ∧
      next = form.setAuth auth) ∨
    (∃ enabled, key = "schedule.enabled" ∧ readSwitch? value = some enabled ∧
      next = { form with scheduleEnabled := enabled }) := by
  unfold assign at assigned
  cases found : EditorKey.ofKey? key with
  | none =>
      rw [found] at assigned
      cases assigned
  | some named =>
      obtain rfl := EditorKey.key_of_ofKey? found
      rw [found] at assigned
      cases named with
      | field field =>
          cases assigned
          exact .inl ⟨field, rfl, rfl⟩
      | mode =>
          dsimp only at assigned
          split at assigned
          next mode read =>
            cases assigned
            exact .inr (.inl ⟨mode, rfl, read, rfl⟩)
          next => cases assigned
      | auth =>
          dsimp only at assigned
          split at assigned
          next auth read =>
            cases assigned
            exact .inr (.inr (.inl ⟨auth, rfl, read, rfl⟩))
          next => cases assigned
      | scheduleEnabled =>
          dsimp only at assigned
          split at assigned
          next enabled read =>
            cases assigned
            exact .inr (.inr (.inr ⟨enabled, rfl, read, rfl⟩))
          next => cases assigned

/-- An assignment to another key than that of the mode changes what is under this key only. -/
theorem assign_spec (notMode : key ≠ "mode") (assigned : form.assign key value = .ok next) :
    ∃ named : EditorKey, named.key = key ∧ next.Holds value named ∧
      ∀ other, other ≠ named → next.SameAt form other := by
  rcases assign_eq_ok assigned with ⟨field, isKey, rfl⟩ | ⟨mode, isKey, _⟩ |
    ⟨auth, isKey, read, rfl⟩ | ⟨enabled, isKey, read, rfl⟩
  · refine ⟨.field field, isKey.symm, if_pos rfl, fun other differs => ?_⟩
    cases other with
    | field otherField => exact if_neg fun same => differs (congrArg EditorKey.field same)
    | _ => rfl
  · exact absurd isKey notMode
  · refine ⟨.auth, isKey.symm, read, fun other differs => ?_⟩
    cases other with
    | auth => exact absurd rfl differs
    | _ => rfl
  · refine ⟨.scheduleEnabled, isKey.symm, read, fun other differs => ?_⟩
    cases other with
    | scheduleEnabled => exact absurd rfl differs
    | _ => rfl

/-- Some form takes an assignment. -/
def Accepted (key value : String) : Prop :=
  ∃ form next : Form, form.assign key value = .ok next

/-- What one form takes is taken by every form. -/
theorem Accepted.assign (accepted : Accepted key value) (form : Form) :
    ∃ next, form.assign key value = .ok next := by
  obtain ⟨taker, taken, takes⟩ := accepted
  rcases assign_cases key value with ⟨fault, refused⟩ | ⟨field, sets⟩ | ⟨mode, switches⟩ |
    ⟨auth, switches⟩ | ⟨enabled, switches⟩
  · rw [refused taker] at takes
    cases takes
  · exact ⟨_, sets form⟩
  · exact ⟨_, switches form⟩
  · exact ⟨_, switches form⟩
  · exact ⟨_, switches form⟩

end Form

/-- The last value that a list of assignments gives to a key. -/
def lastValue? (assignments : List (String × String)) (key : String) : Option String :=
  assignments.reverse.lookup key

section LastValue

variable {assignments : List (String × String)} {key : String}

theorem lastValue?_concat (earlier : List (String × String)) (last : String × String)
    (asked : String) :
    lastValue? (earlier ++ [last]) asked =
      if asked = last.1 then some last.2 else lastValue? earlier asked := by
  rw [lastValue?, List.reverse_append]
  exact Json.lookup_cons last.1 last.2 earlier.reverse asked

theorem lastValue?_eq_none_iff :
    lastValue? assignments key = none ↔ ∀ assignment ∈ assignments, assignment.1 ≠ key := by
  simp only [lastValue?, List.lookup_eq_none_iff, List.mem_reverse, bne_iff_ne]
  exact forall₂_congr fun assignment _ => ne_comm

/-- Only the assignments to a key matter for its last value. -/
theorem lastValue?_filter (assignments : List (String × String)) (key : String) :
    lastValue? (assignments.filter fun assignment => assignment.1 = key) key =
      lastValue? assignments key := by
  induction assignments using List.reverseRecOn with
  | nil => rfl
  | append_singleton earlier last ih =>
      rw [List.filter_append, lastValue?_concat]
      by_cases isKey : last.1 = key
      · have kept : [last].filter (fun assignment => assignment.1 = key) = [last] := by simp [isKey]
        rw [kept, lastValue?_concat, if_pos isKey.symm, if_pos isKey.symm]
      · have dropped : [last].filter (fun assignment => assignment.1 = key) = [] := by simp [isKey]
        rw [dropped, List.append_nil, ih, if_neg (Ne.symm isKey)]

end LastValue

namespace Form

/-- A form has under every key the last value of a list of assignments, or what it had at the
start. -/
def HoldsLast (start : Form) (assignments : List (String × String)) (form : Form) : Prop :=
  ∀ named : EditorKey,
    match lastValue? assignments named.key with
    | some value => form.Holds value named
    | none => form.SameAt start named

namespace HoldsLast

variable {start form other next : Form} {assignments : List (String × String)} {key value : String}

theorem nil (start : Form) : HoldsLast start [] start :=
  fun named => .refl start named

/-- One more assignment. -/
theorem assign (holds : HoldsLast start assignments form) (notMode : key ≠ "mode")
    (assigned : form.assign key value = .ok next) :
    HoldsLast start (assignments ++ [(key, value)]) next := by
  obtain ⟨named, rfl, held, elsewhere⟩ := assign_spec notMode assigned
  intro asked
  rw [lastValue?_concat]
  by_cases isNamed : asked = named
  · rw [isNamed, if_pos rfl]
    exact held
  · -- another key has its own text, and what is under it has not changed
    have otherKey : asked.key ≠ named.key := fun same => isNamed (EditorKey.key_injective same)
    have before := holds asked
    rw [if_neg otherKey]
    split
    next last isLast =>
      rw [isLast] at before
      exact before.of_sameAt (elsewhere asked isNamed)
    next isLast =>
      rw [isLast] at before
      exact (elsewhere asked isNamed).trans before

/-- The last values decide what the form is. -/
theorem unique {others : List (String × String)} (holds : HoldsLast start assignments form)
    (otherHolds : HoldsLast start others other)
    (sameLast : ∀ key, lastValue? others key = lastValue? assignments key) : other = form := by
  refine eq_of_sameAt fun named => ?_
  have held := holds named
  have otherHeld := otherHolds named
  rw [sameLast] at otherHeld
  split at held
  next last isLast =>
    rw [isLast] at otherHeld
    exact otherHeld.sameAt held
  next isLast =>
    rw [isLast] at otherHeld
    exact otherHeld.trans held.symm

end HoldsLast

end Form

namespace Studio

variable {start : Form} {assignments others : List (String × String)}

theorem applyEdits_concat (start : Form) (earlier : List (String × String))
    (last : String × String) :
    applyEdits start (earlier ++ [last]) =
      (applyEdits start earlier).bind fun form => form.assign last.1 last.2 := by
  simp only [applyEdits, List.foldlM_append, List.foldlM_cons, List.foldlM_nil, bind_pure]
  rfl

theorem holdsLast_applyEdits {final : Form} (noMode : ∀ a ∈ assignments, a.1 ≠ "mode")
    (applied : applyEdits start assignments = .ok final) : Form.HoldsLast start assignments final := by
  induction assignments using List.reverseRecOn generalizing final with
  | nil =>
      cases applied
      exact .nil start
  | append_singleton earlier last ih =>
      rw [applyEdits_concat] at applied
      obtain ⟨form, ran, assigned⟩ := ok_of_bind applied
      obtain ⟨noneEarlier, notLast⟩ := List.forall_mem_append.mp noMode
      exact (ih noneEarlier ran).assign (notLast last List.mem_cons_self) assigned

theorem exists_applyEdits (start : Form) (accepted : ∀ a ∈ assignments, Form.Accepted a.1 a.2) :
    ∃ final, applyEdits start assignments = .ok final := by
  induction assignments using List.reverseRecOn with
  | nil => exact ⟨start, rfl⟩
  | append_singleton earlier last ih =>
      obtain ⟨acceptedEarlier, acceptedLast⟩ := List.forall_mem_append.mp accepted
      obtain ⟨form, ran⟩ := ih acceptedEarlier
      obtain ⟨final, assigned⟩ := (acceptedLast last List.mem_cons_self).assign form
      refine ⟨final, ?_⟩
      rw [applyEdits_concat, ran]
      exact assigned

/-- Lists with the same last values lead to the same form. -/
theorem applyEdits_congr {final : Form} (noMode : ∀ a ∈ assignments, a.1 ≠ "mode")
    (applied : applyEdits start assignments = .ok final)
    (accepted : ∀ a ∈ others, Form.Accepted a.1 a.2)
    (sameLast : ∀ key, lastValue? others key = lastValue? assignments key) :
    applyEdits start others = .ok final := by
  -- the mode has no last value in the one list, so the other does not assign to it either
  have noModeThere : ∀ a ∈ others, a.1 ≠ "mode" := by
    rw [← lastValue?_eq_none_iff, sameLast]
    exact lastValue?_eq_none_iff.mpr noMode
  obtain ⟨otherFinal, otherApplied⟩ := exists_applyEdits start accepted
  have holds := holdsLast_applyEdits noMode applied
  have otherHolds := holdsLast_applyEdits noModeThere otherApplied
  rw [otherApplied, holds.unique otherHolds sameLast]

/-- After accepted assignments to other keys than that of the mode, a form has under each key
what the last value given to it stands for, and otherwise what it had before.  The last values
alone decide what the form is, so that assignments to different keys may trade places.  A
refused assignment, whatever its key, changes nothing. -/
theorem keys_independent (start : Form) :
    (∀ assignments : List (String × String),
      (∀ a ∈ assignments, a.1 ≠ "mode" ∧ Form.Accepted a.1 a.2) →
      ∃ final, applyEdits start assignments = .ok final ∧ Form.HoldsLast start assignments final ∧
        (∀ others : List (String × String), (∀ a ∈ others, Form.Accepted a.1 a.2) →
          (∀ key, lastValue? others key = lastValue? assignments key) →
          applyEdits start others = .ok final) ∧
        ∀ others : List (String × String),
          (∀ key, others.filter (fun a => a.1 = key) = assignments.filter fun a => a.1 = key) →
          applyEdits start others = .ok final) ∧
    ∀ key value fault after, (InPlace.assign key value).runOn start = (.error fault, after) →
      start.assign key value = .error fault ∧ after = start := by
  constructor
  · intro assignments taken
    have noMode : ∀ a ∈ assignments, a.1 ≠ "mode" := fun a member => (taken a member).1
    have accepted : ∀ a ∈ assignments, Form.Accepted a.1 a.2 := fun a member => (taken a member).2
    obtain ⟨final, applied⟩ := exists_applyEdits start accepted
    refine ⟨final, applied, holdsLast_applyEdits noMode applied,
      fun others => applyEdits_congr noMode applied,
      fun others sameOrder => applyEdits_congr noMode applied ?_ fun key => ?_⟩
    · intro a member
      have kept : a ∈ others.filter fun other => other.1 = a.1 :=
        List.mem_filter.mpr ⟨member, decide_eq_true rfl⟩
      rw [sameOrder] at kept
      exact accepted a (List.mem_filter.mp kept).1
    · rw [← lastValue?_filter others, sameOrder, lastValue?_filter]
  · intro key value fault after refused
    rw [InPlace.runOn_assign] at refused
    split at refused
    next => cases refused
    next reason isRefused =>
      cases refused
      exact ⟨isRefused, rfl⟩

/-- A name is given twice, and the schedule is switched off in between or afterwards. -/
theorem keys_independent_name_twice :
    let assignments := [("name", "draft"), ("schedule.enabled", " OFF "), ("name", "tickets")]
    let others := [("name", "draft"), ("name", "tickets"), ("schedule.enabled", " OFF ")]
    (∀ a ∈ assignments, a.1 ≠ "mode" ∧ Form.Accepted a.1 a.2) ∧
      (∃ final, applyEdits Form.empty assignments = .ok final ∧
        applyEdits Form.empty others = .ok final ∧
        final.text .name = "tickets" ∧ final.scheduleEnabled = false) ∧
      ∃ fault after, (InPlace.assign "mode" "kafka").runOn Form.empty = (.error fault, after) ∧
        Form.empty.assign "mode" "kafka" = .error fault ∧ after = Form.empty := by
  intro assignments others
  have taken : ∀ a ∈ assignments, a.1 ≠ "mode" ∧ Form.Accepted a.1 a.2 := by
    intro a member
    simp only [assignments, List.mem_cons, List.not_mem_nil, or_false] at member
    rcases member with rfl | rfl | rfl <;> exact ⟨by decide, Form.empty, _, rfl⟩
  have sameOrder (key : String) :
      others.filter (fun a => a.1 = key) = assignments.filter fun a => a.1 = key := by
    by_cases isName : "name" = key
    · subst isName
      rfl
    · simp [others, assignments, List.filter_cons, isName]
  obtain ⟨lists, refusals⟩ := keys_independent Form.empty
  obtain ⟨final, applied, holds, -, reordered⟩ := lists assignments taken
  have switchedOff : final.scheduleEnabled = false :=
    (Option.some.inj (holds .scheduleEnabled)).symm
  exact ⟨taken, ⟨final, applied, reordered others sameOrder, holds (.field .name), switchedOff⟩,
    _, _, rfl, refusals _ _ _ _ rfl⟩

end Studio

end ConnectorConsole
