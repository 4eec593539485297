import ConnectorConsole.Ops.Controller
import Mathlib.Data.List.Basic
import Mathlib.Tactic.SplitIfs

/-!
# Histories of a controller

A history lists the calls of a controller with what they gave back, the oldest
first.  It says which requests were issued, which of them were answered and which
answers were taken.  A run is a history that a fresh controller can have: its
requests are answered late, out of order or more than once, but never before they
were issued.
-/

namespace ConnectorConsole

/-- The answer to a request, with the time at which it is taken in. -/
structure OpsAnswer where
  request : OpsRequest
  outcome : Except Fault OpsPayload
  now : Timestamp

/-- One call of a controller. -/
inductive HistoryEntry where
  | polled (request : OpsRequest)
  | changed (change : Transition) (request : OpsRequest)
  | answered (answer : OpsAnswer) (completion : Completion)

/-- The calls of a controller, the oldest first. -/
abbrev History := List HistoryEntry

namespace HistoryEntry

/-- The request that a call issues. -/
def issued? : HistoryEntry → Option OpsRequest
  | .polled request => some request
  | .changed _ request => some request
  | .answered _ _ => none

/-- The request that a call answers, in time or too late. -/
def answered? : HistoryEntry → Option OpsRequest
  | .answered answer _ => some answer.request
  | _ => none

/-- The answer that a call takes, with what becomes of it.  One that comes too
late is not taken. -/
def accepted? : HistoryEntry → Option (OpsAnswer × Completion)
  | .answered answer completion =>
    if completion = .stale then none else some (answer, completion)
  | _ => none

/-- Whether a call changes the query state. -/
def isChange : HistoryEntry → Bool
  | .changed _ _ => true
  | _ => false

end HistoryEntry

namespace History

/-- The requests issued, in order. -/
def issued (history : History) : List OpsRequest :=
  history.filterMap HistoryEntry.issued?

/-- The requests answered, in order, each as often as it was answered. -/
def answered (history : History) : List OpsRequest :=
  history.filterMap HistoryEntry.answered?

/-- The answers taken, in order. -/
def accepted (history : History) : List (OpsAnswer × Completion) :=
  history.filterMap HistoryEntry.accepted?

/-- The requests whose answers were taken, in order. -/
def acceptedRequests (history : History) : List OpsRequest :=
  history.accepted.map fun taken => taken.1.request

/-- The answers that made a new screen, in order. -/
def applied (history : History) : List OpsAnswer :=
  history.accepted.filterMap fun taken => if taken.2 = .applied then some taken.1 else none

/-- The query state was changed after the request was issued. -/
def ChangedSince (history : History) (request : OpsRequest) : Prop :=
  ∃ earlier later : History, history = earlier ++ later ∧ request ∈ earlier.issued ∧
    ∃ entry ∈ later, entry.isChange = true

variable {history : History} {entry : HistoryEntry} {request : OpsRequest}

theorem issued_append (earlier later : History) :
    issued (earlier ++ later) = earlier.issued ++ later.issued :=
  List.filterMap_append

theorem accepted_append (earlier later : History) :
    accepted (earlier ++ later) = earlier.accepted ++ later.accepted :=
  List.filterMap_append

theorem applied_append (earlier later : History) :
    applied (earlier ++ later) = earlier.applied ++ later.applied := by
  rw [applied, accepted_append, List.filterMap_append, ← applied, ← applied]

@[simp]
theorem issued_concat (history : History) (entry : HistoryEntry) :
    issued (history ++ [entry]) = history.issued ++ entry.issued?.toList := by
  cases issues : entry.issued? <;> simp [issued, List.filterMap_append, issues]

@[simp]
theorem answered_concat (history : History) (entry : HistoryEntry) :
    answered (history ++ [entry]) = history.answered ++ entry.answered?.toList := by
  cases answers : entry.answered? <;> simp [answered, List.filterMap_append, answers]

@[simp]
theorem accepted_concat (history : History) (entry : HistoryEntry) :
    accepted (history ++ [entry]) = history.accepted ++ entry.accepted?.toList := by
  cases takes : entry.accepted? <;> simp [accepted, List.filterMap_append, takes]

@[simp]
theorem acceptedRequests_concat (history : History) (entry : HistoryEntry) :
    acceptedRequests (history ++ [entry]) =
      history.acceptedRequests ++ entry.accepted?.toList.map fun taken => taken.1.request := by
  simp [acceptedRequests]

/-- A property of all requests issued, after one more is issued. -/
theorem forall_mem_issued_concat {property : OpsRequest → Prop}
    (issues : entry.issued? = some request) :
    (∀ other ∈ issued (history ++ [entry]), property other) ↔
      (∀ other ∈ history.issued, property other) ∧ property request := by
  rw [issued_concat, issues, Option.toList_some, List.forall_mem_append,
    List.forall_mem_singleton]

/-- A property of all requests answered, after one more answer. -/
theorem forall_mem_answered_concat {property : OpsRequest → Prop} {answer : OpsAnswer}
    {completion : Completion} :
    (∀ other ∈ answered (history ++ [.answered answer completion]), property other) ↔
      (∀ other ∈ history.answered, property other) ∧ property answer.request := by
  rw [answered_concat, HistoryEntry.answered?, Option.toList_some, List.forall_mem_append,
    List.forall_mem_singleton]

/-- The answers taken are those of the calls that were not too late. -/
theorem mem_accepted_iff {answer : OpsAnswer} {completion : Completion} :
    (answer, completion) ∈ history.accepted ↔
      .answered answer completion ∈ history ∧ completion ≠ .stale := by
  rw [accepted, List.mem_filterMap]
  constructor
  · rintro ⟨entry, entryMem, takes⟩
    cases entry with
    | polled _ => simp [HistoryEntry.accepted?] at takes
    | changed _ _ => simp [HistoryEntry.accepted?] at takes
    | answered other given =>
        by_cases late : given = .stale
        · simp [HistoryEntry.accepted?, late] at takes
        · simp only [HistoryEntry.accepted?, late, if_false, Option.some.injEq,
            Prod.mk.injEq] at takes
          obtain ⟨rfl, rfl⟩ := takes
          exact ⟨entryMem, late⟩
  · rintro ⟨entryMem, inTime⟩
    exact ⟨_, entryMem, if_neg inTime⟩

theorem mem_of_mem_applied {history : History} {answer : OpsAnswer}
    (applied : answer ∈ history.applied) : .answered answer .applied ∈ history := by
  obtain ⟨⟨taken, completion⟩, isTaken, isApplied⟩ := List.mem_filterMap.mp applied
  split_ifs at isApplied with made
  obtain rfl := Option.some.inj isApplied
  obtain rfl : completion = .applied := made
  exact (mem_accepted_iff.mp isTaken).1

/-- Every request whose answer was taken was answered. -/
theorem acceptedRequests_subset_answered (history : History) :
    history.acceptedRequests ⊆ history.answered := by
  intro request taken
  obtain ⟨⟨answer, completion⟩, member, rfl⟩ := List.mem_map.mp taken
  exact List.mem_filterMap.mpr ⟨_, (mem_accepted_iff.mp member).1, rfl⟩

/-- An answer that is the last one taken and made a new screen is the last one that
made a new screen. -/
theorem applied_getLast? {answer : OpsAnswer}
    (last : history.accepted.getLast? = some (answer, .applied)) :
    history.applied.getLast? = some answer := by
  obtain ⟨before, split⟩ := List.getLast?_eq_some_iff.mp last
  rw [applied, split, List.filterMap_append]
  exact List.getLast?_concat

theorem mem_issued_of_changedSince (changed : history.ChangedSince request) :
    request ∈ history.issued := by
  obtain ⟨earlier, later, rfl, issuedEarlier, _⟩ := changed
  rw [issued_append]
  exact List.mem_append_left _ issuedEarlier

theorem changedSince_concat_iff :
    ChangedSince (history ++ [entry]) request ↔
      history.ChangedSince request ∨
        (request ∈ history.issued ∧ entry.isChange = true) := by
  constructor
  · rintro ⟨earlier, later, split, issuedEarlier, change, changeMem, isChange⟩
    rcases List.eq_nil_or_concat' later with rfl | ⟨before, last, rfl⟩
    · simp at changeMem
    · rw [← List.append_assoc] at split
      obtain ⟨rfl, lastEq⟩ := List.append_inj' split rfl
      obtain rfl := List.singleton_inj.mp lastEq
      rcases List.mem_append.mp changeMem with inBefore | isLast
      · exact .inl ⟨earlier, before, rfl, issuedEarlier, change, inBefore, isChange⟩
      · obtain rfl := List.mem_singleton.mp isLast
        refine .inr ⟨?_, isChange⟩
        rw [issued_append]
        exact List.mem_append_left _ issuedEarlier
  · rintro (⟨earlier, later, rfl, issuedEarlier, change, changeMem, isChange⟩ |
      ⟨issuedBefore, isChange⟩)
    · exact ⟨earlier, later ++ [entry], by simp, issuedEarlier, change, by simp [changeMem],
        isChange⟩
    · exact ⟨history, [entry], rfl, issuedBefore, entry, by simp, isChange⟩

end History

namespace Controller

/-- The histories of a controller that starts with a query state, with the
controller that each leads to. -/
inductive Run (initial : QueryState) : History → Controller → Prop where
  | new : Run initial [] (Controller.new initial)
  | poll {history : History} {controller : Controller} (run : Run initial history controller) :
      Run initial (history ++ [.polled controller.poll.1]) controller.poll.2
  | transition {history : History} {controller : Controller}
      (run : Run initial history controller) (change : Transition) :
      Run initial (history ++ [.changed change (controller.transition change).1])
        (controller.transition change).2
  | complete {history : History} {controller : Controller}
      (run : Run initial history controller) (request : OpsRequest)
      (issued : request ∈ history.issued) (outcome : Except Fault OpsPayload)
      (now : Timestamp) :
      Run initial
        (history ++ [.answered ⟨request, outcome, now⟩
          (controller.complete request outcome now).1])
        (controller.complete request outcome now).2

end Controller

end ConnectorConsole
