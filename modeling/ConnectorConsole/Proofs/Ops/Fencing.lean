import ConnectorConsole.Proofs.Ops.History
import Mathlib.Data.List.Nodup
import Mathlib.Data.List.Range

/-!
# The fence around a controller

The controller compares two counters with those of a request to decide whether an
answer comes too late.  This file ties the counters to the history: requests are
numbered from one, the generation of a request is the current one exactly when
the query state was not changed since, and the newest number taken is that of the
last request accepted.  The decision of the controller is therefore one about the
history.
-/

namespace ConnectorConsole

namespace Controller

/-- What ties the requests issued to the controller that issued them. -/
structure Numbered (history : History) (controller : Controller) : Prop where
  /-- Requests are numbered from one, in the order in which they are issued. -/
  sequences : history.issued.map OpsRequest.sequence = List.range' 1 controller.issued
  generation_le : ∀ request ∈ history.issued, request.generation ≤ controller.generation
  generation_mono : ∀ earlier ∈ history.issued, ∀ later ∈ history.issued,
    earlier.sequence ≤ later.sequence → earlier.generation ≤ later.generation
  current_iff : ∀ request ∈ history.issued,
    request.generation = controller.generation ↔ ¬ history.ChangedSince request
  state_of_current : ∀ request ∈ history.issued,
    request.generation = controller.generation → request.state = controller.state

/-- What ties the counters of a controller to its history: its requests are
numbered, and the newest number taken is that of the last request accepted. -/
structure Fenced (history : History) (controller : Controller) : Prop
    extends Numbered history controller where
  answered_issued : ∀ request ∈ history.answered, request ∈ history.issued
  /-- An answer to a current request is taken, or one at least as new was taken before. -/
  answered_le : ∀ request ∈ history.answered,
    request.generation = controller.generation → request.sequence ≤ controller.accepted
  accepted_increasing : history.acceptedRequests.Pairwise fun earlier later =>
    earlier.sequence < later.sequence
  accepted_le : ∀ request ∈ history.acceptedRequests, request.sequence ≤ controller.accepted
  /-- Zero stands for no request accepted yet. -/
  accepted_last : (history.acceptedRequests.getLast?.map OpsRequest.sequence).getD 0 =
    controller.accepted

variable {history : History} {controller : Controller}

namespace Numbered

theorem sequence_bounds (numbered : Numbered history controller) {request : OpsRequest}
    (issued : request ∈ history.issued) :
    0 < request.sequence ∧ request.sequence ≤ controller.issued := by
  have member := List.mem_map_of_mem (f := OpsRequest.sequence) issued
  rw [numbered.sequences, List.mem_range'_1] at member
  omega

/-- A request is known by its number. -/
theorem eq_of_sequence_eq (numbered : Numbered history controller) {first second : OpsRequest}
    (firstIssued : first ∈ history.issued) (secondIssued : second ∈ history.issued)
    (same : first.sequence = second.sequence) : first = second := by
  have distinct : (history.issued.map OpsRequest.sequence).Nodup := by
    rw [numbered.sequences]
    exact List.nodup_range'
  exact List.inj_on_of_nodup_map distinct firstIssued secondIssued same

/-- The next number was not given out before. -/
theorem next_not_issued (numbered : Numbered history controller) (generation : Nat)
    (state : QueryState) :
    (⟨controller.issued + 1, generation, state⟩ : OpsRequest) ∉ history.issued :=
  fun issued => absurd (numbered.sequence_bounds issued).2 (Nat.not_succ_le_self _)

/-- A request issued after a current one is current. -/
theorem current_of_newer (numbered : Numbered history controller) {request later : OpsRequest}
    (issued : request ∈ history.issued)
    (current : request.generation = controller.generation)
    (laterIssued : later ∈ history.issued) (newer : request.sequence ≤ later.sequence) :
    later.generation = controller.generation :=
  le_antisymm (numbered.generation_le later laterIssued)
    (current ▸ numbered.generation_mono request issued later laterIssued newer)

/-- A request issued before is still current after the next one is issued only if
nothing was changed for that one. -/
theorem unchanged_of_current (numbered : Numbered history controller) {entry : HistoryEntry}
    {generation : Nat} {state : QueryState}
    (change : generation = controller.generation ∧ state = controller.state ∧
        entry.isChange = false ∨
      generation = controller.generation + 1 ∧ entry.isChange = true)
    {request : OpsRequest} (issued : request ∈ history.issued)
    (current : request.generation = generation) :
    generation = controller.generation ∧ state = controller.state := by
  have bound := numbered.generation_le request issued
  rcases change with ⟨same, sameState, _⟩ | ⟨next, _⟩
  · exact ⟨same, sameState⟩
  · omega

/-- Issuing a request keeps the numbering, whether or not the query state is
changed for it. -/
theorem issue (numbered : Numbered history controller) {entry : HistoryEntry}
    {generation : Nat} {state : QueryState}
    (issues : entry.issued? = some ⟨controller.issued + 1, generation, state⟩)
    (change : generation = controller.generation ∧ state = controller.state ∧
        entry.isChange = false ∨
      generation = controller.generation + 1 ∧ entry.isChange = true) :
    Numbered (history ++ [entry])
      { controller with
        state := state, generation := generation, issued := controller.issued + 1 } := by
  have notOlder : controller.generation ≤ generation := by
    rcases change with ⟨same, _⟩ | ⟨next, _⟩ <;> omega
  have fresh := numbered.next_not_issued generation state
  constructor
  case sequences =>
    simp [issues, numbered.sequences, List.range'_1_concat, Nat.add_comm]
  case generation_le =>
    rw [History.forall_mem_issued_concat issues]
    exact ⟨fun request issued => (numbered.generation_le request issued).trans notOlder,
      le_refl _⟩
  case generation_mono =>
    simp only [History.forall_mem_issued_concat issues]
    refine ⟨fun earlier earlierIssued => ⟨numbered.generation_mono earlier earlierIssued,
      fun _ => (numbered.generation_le earlier earlierIssued).trans notOlder⟩,
      fun later laterIssued newer => ?_, fun _ => le_refl _⟩
    have bound := (numbered.sequence_bounds laterIssued).2
    exact absurd (newer.trans bound) (Nat.not_succ_le_self _)
  case current_iff =>
    rw [History.forall_mem_issued_concat issues]
    constructor
    · intro request issued
      rw [History.changedSince_concat_iff]
      rcases change with ⟨same, _, noChange⟩ | ⟨next, isChange⟩
      · simpa [same, noChange] using numbered.current_iff request issued
      · have bound := numbered.generation_le request issued
        have older : request.generation ≠ generation := by omega
        simp [older, issued, isChange]
    · refine iff_of_true rfl fun changed => ?_
      rcases History.changedSince_concat_iff.mp changed with changedBefore | ⟨issued, _⟩
      · exact fresh (History.mem_issued_of_changedSince changedBefore)
      · exact fresh issued
  case state_of_current =>
    rw [History.forall_mem_issued_concat issues]
    refine ⟨fun request issued current => ?_, fun _ => rfl⟩
    obtain ⟨same, sameState⟩ := numbered.unchanged_of_current change issued current
    rw [sameState]
    exact numbered.state_of_current request issued (current.trans same)

/-- Taking in an answer keeps the numbering, whatever becomes of it. -/
theorem answer (numbered : Numbered history controller) (answer : OpsAnswer)
    (completion : Completion) (accepted : Nat) (screen : Option Screen)
    (banner : Option String) :
    Numbered (history ++ [.answered answer completion])
      { controller with accepted := accepted, screen := screen, banner := banner } := by
  have issuedEq : History.issued (history ++ [.answered answer completion]) =
      history.issued := by
    simp [HistoryEntry.issued?]
  constructor <;> rw [issuedEq]
  case sequences => exact numbered.sequences
  case generation_le => exact numbered.generation_le
  case generation_mono => exact numbered.generation_mono
  case current_iff =>
    intro request issued
    rw [History.changedSince_concat_iff]
    simpa [HistoryEntry.isChange] using numbered.current_iff request issued
  case state_of_current => exact numbered.state_of_current

end Numbered

namespace Fenced

theorem new (initial : QueryState) : Fenced [] (Controller.new initial) := by
  constructor
  case toNumbered => constructor <;> simp [History.issued, Controller.new]
  all_goals simp [History.answered, History.acceptedRequests, History.accepted, Controller.new]

/-- Issuing a request keeps the fence. -/
theorem issue (fenced : Fenced history controller) {entry : HistoryEntry}
    {generation : Nat} {state : QueryState}
    (issues : entry.issued? = some ⟨controller.issued + 1, generation, state⟩)
    (answersNone : entry.answered? = none) (takesNone : entry.accepted? = none)
    (change : generation = controller.generation ∧ state = controller.state ∧
        entry.isChange = false ∨
      generation = controller.generation + 1 ∧ entry.isChange = true) :
    Fenced (history ++ [entry])
      { controller with
        state := state, generation := generation, issued := controller.issued + 1 } := by
  have answeredEq : History.answered (history ++ [entry]) = history.answered := by
    simp [answersNone]
  have acceptedEq : History.acceptedRequests (history ++ [entry]) =
      history.acceptedRequests := by
    simp [takesNone]
  refine ⟨fenced.toNumbered.issue issues change, ?_, ?_, ?_, ?_, ?_⟩
  · rw [answeredEq, History.issued_concat]
    exact fun request answered =>
      List.mem_append_left _ (fenced.answered_issued request answered)
  · rw [answeredEq]
    intro request answered current
    obtain ⟨same, _⟩ := fenced.unchanged_of_current change
      (fenced.answered_issued request answered) current
    exact fenced.answered_le request answered (current.trans same)
  · rw [acceptedEq]
    exact fenced.accepted_increasing
  · rw [acceptedEq]
    exact fenced.accepted_le
  · rw [acceptedEq]
    exact fenced.accepted_last

/-- Only requests that were issued are answered. -/
theorem answered_issued_answer (fenced : Fenced history controller) (answer : OpsAnswer)
    (issued : answer.request ∈ history.issued) (completion : Completion) :
    ∀ request ∈ History.answered (history ++ [.answered answer completion]),
      request ∈ History.issued (history ++ [.answered answer completion]) := by
  rw [History.forall_mem_answered_concat, History.issued_concat]
  exact ⟨fun request answered =>
    List.mem_append_left _ (fenced.answered_issued request answered),
    List.mem_append_left _ issued⟩

/-- Dropping an answer that comes too late keeps the fence. -/
theorem drop (fenced : Fenced history controller) (answer : OpsAnswer)
    (issued : answer.request ∈ history.issued)
    (late : controller.outdated answer.request = true) :
    Fenced (history ++ [.answered answer .stale]) controller := by
  have acceptedEq : History.acceptedRequests (history ++ [.answered answer .stale]) =
      history.acceptedRequests := by
    simp [HistoryEntry.accepted?]
  refine ⟨fenced.toNumbered.answer answer .stale controller.accepted controller.screen
    controller.banner, fenced.answered_issued_answer answer issued .stale, ?_, ?_, ?_, ?_⟩
  · rw [History.forall_mem_answered_concat]
    refine ⟨fenced.answered_le, fun current => ?_⟩
    exact (outdated_iff.mp late).resolve_left (not_not_intro current)
  · rw [acceptedEq]
    exact fenced.accepted_increasing
  · rw [acceptedEq]
    exact fenced.accepted_le
  · rw [acceptedEq]
    exact fenced.accepted_last

/-- Taking an answer that comes in time keeps the fence, whatever is shown for
it. -/
theorem take (fenced : Fenced history controller) (answer : OpsAnswer)
    (issued : answer.request ∈ history.issued)
    (inTime : controller.outdated answer.request = false)
    {completion : Completion} (taken : completion ≠ .stale)
    (screen : Option Screen) (banner : Option String) :
    Fenced (history ++ [.answered answer completion])
      { controller with
        accepted := answer.request.sequence, screen := screen, banner := banner } := by
  have newer : controller.accepted < answer.request.sequence := by
    by_contra notNewer
    have late := outdated_iff.mpr (Or.inr (Nat.le_of_not_lt notNewer))
    exact Bool.false_ne_true (inTime.symm.trans late)
  have acceptedEq : History.acceptedRequests (history ++ [.answered answer completion]) =
      history.acceptedRequests ++ [answer.request] := by
    simp [HistoryEntry.accepted?, taken]
  refine ⟨fenced.toNumbered.answer answer completion answer.request.sequence screen banner,
    fenced.answered_issued_answer answer issued completion, ?_, ?_, ?_, ?_⟩
  · rw [History.forall_mem_answered_concat]
    exact ⟨fun request answered current =>
      (fenced.answered_le request answered current).trans newer.le, fun _ => le_refl _⟩
  · rw [acceptedEq, List.pairwise_append]
    refine ⟨fenced.accepted_increasing, List.pairwise_singleton _ _, ?_⟩
    intro earlier earlierTaken later laterTaken
    obtain rfl := List.mem_singleton.mp laterTaken
    exact (fenced.accepted_le earlier earlierTaken).trans_lt newer
  · rw [acceptedEq, List.forall_mem_append, List.forall_mem_singleton]
    exact ⟨fun request requestTaken =>
      (fenced.accepted_le request requestTaken).trans newer.le, le_refl _⟩
  · rw [acceptedEq, List.getLast?_concat]
    rfl

/-- Once a number is taken, it is that of the last answer taken. -/
theorem last_accepted (fenced : Fenced history controller) (begun : 0 < controller.accepted) :
    ∃ taken, history.accepted.getLast? = some taken ∧
      taken.1.request ∈ history.acceptedRequests ∧
      taken.1.request ∈ history.issued ∧
      taken.1.request.sequence = controller.accepted := by
  have last := fenced.accepted_last
  rw [History.acceptedRequests, List.getLast?_map] at last
  cases lastTaken : history.accepted.getLast? with
  | none =>
      rw [lastTaken] at last
      exact absurd last begun.ne
  | some taken =>
      rw [lastTaken] at last
      have takenMem : taken.1.request ∈ history.acceptedRequests :=
        List.mem_map_of_mem (List.mem_of_getLast? lastTaken)
      have answered := history.acceptedRequests_subset_answered takenMem
      exact ⟨taken, rfl, takenMem, fenced.answered_issued _ answered, last⟩

/-- A number that some accepted request reaches is one that the controller has
taken. -/
theorem sequence_le_accepted_iff (fenced : Fenced history controller) {request : OpsRequest}
    (issued : request ∈ history.issued) :
    request.sequence ≤ controller.accepted ↔
      ∃ taken ∈ history.acceptedRequests, request.sequence ≤ taken.sequence := by
  constructor
  · intro reached
    -- Numbers begin with one, so the first request is not mistaken for a taken one.
    have positive := (fenced.sequence_bounds issued).1
    obtain ⟨taken, _, takenMem, _, isLast⟩ := fenced.last_accepted (positive.trans_le reached)
    exact ⟨taken.1.request, takenMem, reached.trans_eq isLast.symm⟩
  · rintro ⟨taken, takenMem, reaches⟩
    exact reaches.trans (fenced.accepted_le taken takenMem)

/-- The newest number taken is one that was given out. -/
theorem accepted_le_issued (fenced : Fenced history controller) :
    controller.accepted ≤ controller.issued := by
  rcases Nat.eq_zero_or_pos controller.accepted with none | begun
  · rw [none]
    exact Nat.zero_le _
  · obtain ⟨taken, _, _, issued, isLast⟩ := fenced.last_accepted begun
    rw [← isLast]
    exact (fenced.sequence_bounds issued).2

end Fenced

/-- Every run keeps the fence. -/
theorem Run.fenced {initial : QueryState} {history : History} {controller : Controller}
    (run : Run initial history controller) : Fenced history controller := by
  induction run with
  | new => exact Fenced.new initial
  | poll run fenced =>
      exact fenced.issue rfl rfl rfl (Or.inl ⟨rfl, rfl, rfl⟩)
  | transition run change fenced =>
      exact fenced.issue rfl rfl rfl (Or.inr ⟨rfl, rfl⟩)
  | @complete history controller run request issued outcome now fenced =>
      rcases controller.complete_cases request outcome now with
        ⟨late, answered⟩ | ⟨inTime, payload, _, answered⟩ | ⟨inTime, fault, _, answered⟩
      · rw [answered]
        exact fenced.drop ⟨request, outcome, now⟩ issued late
      · rw [answered]
        exact fenced.take ⟨request, outcome, now⟩ issued inTime (by simp) _ _
      · rw [answered]
        exact fenced.take ⟨request, outcome, now⟩ issued inTime (by simp) _ _

/-- No counter is greater than the number of calls, so that none outgrows a 64-bit
word in fewer than `2 ^ 64` calls. -/
theorem Run.counters_le_length {initial : QueryState} (run : Run initial history controller) :
    controller.generation ≤ history.length ∧ controller.issued ≤ history.length ∧
      controller.accepted ≤ history.length := by
  have counted : controller.generation ≤ history.length ∧
      controller.issued ≤ history.length := by
    induction run with
    | new => exact ⟨le_refl _, le_refl _⟩
    | poll run ih =>
        rw [List.length_append, List.length_singleton]
        exact ⟨ih.1.trans (Nat.le_succ _), Nat.succ_le_succ ih.2⟩
    | transition run change ih =>
        rw [List.length_append, List.length_singleton]
        exact ⟨Nat.succ_le_succ ih.1, Nat.succ_le_succ ih.2⟩
    | @complete history controller run request issued outcome now ih =>
        rw [List.length_append, List.length_singleton, complete_generation, complete_issued]
        exact ⟨ih.1.trans (Nat.le_succ _), ih.2.trans (Nat.le_succ _)⟩
  exact ⟨counted.1, counted.2, run.fenced.accepted_le_issued.trans counted.2⟩

/-- An answer is dropped exactly when the query state was changed after its request
was issued, or a request at least as new was accepted before.  Hence an accepted
request carries the query state of its moment, accepted numbers increase over the
whole run, no request is accepted twice, and the newest request of the current
generation is not dropped when it is answered first. -/
theorem Run.answers_fenced {initial : QueryState} (run : Run initial history controller) :
    (∀ request ∈ history.issued, ∀ outcome now,
      (controller.complete request outcome now).1 = .stale ↔
        history.ChangedSince request ∨
          ∃ taken ∈ history.acceptedRequests, request.sequence ≤ taken.sequence) ∧
    (∀ request ∈ history.issued, ∀ outcome now,
      (controller.complete request outcome now).1 ≠ .stale →
        request.state = controller.state) ∧
    (history.acceptedRequests.Pairwise fun earlier later =>
      earlier.sequence < later.sequence) ∧
    history.acceptedRequests.Nodup ∧
    (∀ newest ∈ history.issued, newest.generation = controller.generation →
      (∀ other ∈ history.issued, other.generation = controller.generation →
        other.sequence ≤ newest.sequence) →
      newest ∉ history.answered → ∀ outcome now,
        (controller.complete newest outcome now).1 ≠ .stale) := by
  have fenced := run.fenced
  refine ⟨?_, ?_, fenced.accepted_increasing, ?_, ?_⟩
  · intro request issued outcome now
    rw [complete_eq_stale_iff, fenced.sequence_le_accepted_iff issued, ne_eq,
      fenced.current_iff request issued, not_not]
  · intro request issued outcome now inTime
    rw [ne_eq, complete_eq_stale_iff, not_or, not_not] at inTime
    exact fenced.state_of_current request issued inTime.1
  · exact fenced.accepted_increasing.imp fun increases same =>
      absurd (congrArg OpsRequest.sequence same) increases.ne
  · intro newest issued current greatest unanswered outcome now dropped
    rcases complete_eq_stale_iff.mp dropped with older | reached
    · exact older current
    · obtain ⟨taken, takenMem, reaches⟩ := (fenced.sequence_le_accepted_iff issued).mp reached
      have answered := history.acceptedRequests_subset_answered takenMem
      have takenIssued := fenced.answered_issued taken answered
      have takenCurrent := fenced.current_of_newer issued current takenIssued reaches
      have same : newest = taken := fenced.eq_of_sequence_eq issued takenIssued
        (le_antisymm reaches (greatest taken takenIssued takenCurrent))
      exact unanswered (same ▸ answered)

/-- Of two refreshes whose later one failed first, the earlier one comes too late. -/
theorem Run.answers_fenced_newer_failed :
    let state := QueryState.fresh .snapshot 25
    let older : OpsRequest := ⟨1, 0, state⟩
    let newer : OpsRequest := ⟨2, 0, state⟩
    let midnight : Timestamp := ⟨0, 0, false, 0⟩
    let fault : Fault := .transport "request failed (502)"
    let history : History :=
      [.polled older, .polled newer, .answered ⟨newer, .error fault, midnight⟩ .failed]
    let controller : Controller := ⟨state, 0, 2, 2, none, some (failureBanner fault)⟩
    Run state history controller ∧
      (controller.complete older (.error fault) midnight).1 = .stale ∧
      history.acceptedRequests = [newer] ∧ history.acceptedRequests.Nodup := by
  intro state older newer midnight fault history controller
  have issued : history.issued = [older, newer] := rfl
  have accepted : history.acceptedRequests = [newer] := rfl
  have newerIssued : newer ∈ history.issued := by simp [issued]
  have run : Run state history controller :=
    .complete (.poll (.poll .new)) newer newerIssued (.error fault) midnight
  obtain ⟨dropped, _, _, distinct, _⟩ := run.answers_fenced
  refine ⟨run, ?_, accepted, distinct⟩
  exact (dropped older (by simp [issued]) (.error fault) midnight).mpr
    (Or.inr ⟨newer, by simp [accepted], by decide⟩)

end Controller

end ConnectorConsole
