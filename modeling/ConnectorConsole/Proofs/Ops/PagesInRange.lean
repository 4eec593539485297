import ConnectorConsole.Proofs.Ops.DisplayMirror
import ConnectorConsole.Proofs.Ops.Pages
import ConnectorConsole.Proofs.Ops.QueryTransitions

/-!
# Pages in range

The next page is offered below the page on show, which may lag behind the query state.  As long
as no step to a next page leads beyond the page after the one on show, every request asks for a
page with runs on it, and every screen names runs that there are.  Two steps taken on the
strength of one screen can lead beyond the last run.
-/

namespace ConnectorConsole

namespace History

/-- Every payload holds the page that was asked for, of so many runs. -/
def ServedFrom (history : History) (total : UInt64) : Prop :=
  ∀ answer completion payload, .answered answer completion ∈ history →
    answer.outcome = .ok payload → payload.Serves answer.request.state total

/-- No step to a next page leads beyond the page after the one on show. -/
def InView (history : History) : Prop :=
  ∀ (earlier : History) (request : OpsRequest) (later : History),
    history = earlier ++ .changed .next request :: later →
      ∀ answer ∈ earlier.applied.getLast?, request.state.offset.toNat ≤
        answer.request.state.offset.toNat + answer.request.state.limit.toNat

variable {earlier later : History} {total : UInt64}

theorem ServedFrom.of_append (served : ServedFrom (earlier ++ later) total) :
    earlier.ServedFrom total :=
  fun answer completion payload member =>
    served answer completion payload (List.mem_append_left later member)

theorem InView.of_append (inView : InView (earlier ++ later)) : earlier.InView := by
  rintro before request after rfl
  exact inView before request (after ++ later) (by simp)

theorem servedFrom_barePage {history : History}
    (bare : ∀ answer completion, .answered answer completion ∈ history →
      answer.outcome = .ok (.barePage total answer.request.state)) : history.ServedFrom total := by
  intro answer completion payload entry isPayload
  rw [bare answer completion entry, Except.ok.injEq] at isPayload
  exact isPayload ▸ OpsPayload.barePage_serves total _

end History

namespace QueryState

/-- A state with the given page size that asks for a page with runs on it. -/
structure InRange (state : QueryState) (limit : UInt32) (total : UInt64) : Prop where
  limit : state.limit = limit
  offset : state.offset.toNat < total.toNat

/-- Only a step to the next page can leave the range. -/
theorem InRange.apply {state : QueryState} {limit : UInt32} {total : UInt64}
    (inRange : state.InRange limit total) (change : Transition)
    (follows : change = .next → state.nextPage.offset.toNat < total.toNat) :
    (state.apply change).InRange limit total where
  limit := (apply_keeps state change).2.trans inRange.limit
  offset := by
    have within := inRange.offset
    cases change with
    | filter filters =>
        rw [QueryState.apply, offset_withFilters]
        exact Nat.zero_lt_of_lt within
    | reset =>
        rw [QueryState.apply, offset_withoutFilters]
        exact Nat.zero_lt_of_lt within
    | previous =>
        rw [QueryState.apply, toNat_offset_previousPage]
        omega
    | next => exact follows rfl

end QueryState

namespace Controller

variable {initial : QueryState} {history : History} {controller : Controller} {total : UInt64}

/-- A screen on show is that of the last payload taken, for a request that was issued. -/
theorem Run.exists_page_on_show (run : Run initial history controller)
    (served : history.ServedFrom total) {screen : Screen} (shown : controller.screen = some screen) :
    ∃ answer, history.applied.getLast? = some answer ∧ answer.request ∈ history.issued ∧
      screen.pager? = some (Pager.forPage answer.request.state total) := by
  cases last : history.applied.getLast? with
  | none =>
      rw [run.shows.screen_of_none (List.getLast?_eq_none_iff.mp last)] at shown
      cases shown
  | some answer =>
      have entry := History.mem_of_mem_applied (List.mem_of_getLast? last)
      obtain ⟨payload, isPayload, isScreen⟩ := run.shows.screen_of_applied answer last
      rw [shown, Option.some.injEq] at isScreen
      have answered : answer.request ∈ history.answered := List.mem_filterMap.mpr ⟨_, entry, rfl⟩
      refine ⟨answer, rfl, run.fenced.answered_issued _ answered, ?_⟩
      rw [isScreen]
      exact (served _ _ payload entry isPayload).pager? answer.now

end Controller

namespace PollingLoop

variable {initial : QueryState} {limit : UInt32} {total : UInt64} {history calls : History}
  {effects : List WatchEffect} {controller next : Controller} {answered : Option OpsRequest}

/-- Whatever is asked for or shown is a page with runs on it. -/
structure Paging (limit : UInt32) (total : UInt64) (history : History)
    (effects : List WatchEffect) (controller : Controller) : Prop where
  state : controller.state.InRange limit total
  issued : ∀ request ∈ history.issued, request.state.InRange limit total
  presented : ∀ screen banner, (some screen, banner) ∈ presentations effects →
    ∃ page : QueryState, page.InRange limit total ∧
      screen.pager? = some (Pager.forPage page total)

/-- A step to the next page stays in range when it does not lead beyond the page after the one
on show. -/
theorem nextPage_in_range (run : Controller.Run initial history controller)
    (served : history.ServedFrom total)
    (inView : History.InView (history ++ [.changed .next (controller.transition .next).1]))
    (allowed : controller.allows .next = true) :
    controller.state.nextPage.offset.toNat < total.toNat := by
  cases shown : controller.screen with
  | none => simp [Controller.allows, shown] at allowed
  | some screen =>
      obtain ⟨answer, last, _, isPager⟩ := run.exists_page_on_show served shown
      have onPage : controller.OnPage answer.request.state total := by
        rw [Controller.OnPage, shown, Option.bind_some, isPager]
      -- what is offered follows the page on show, and the step starts at or before it
      have follows := onPage.allows_next_iff.mp allowed
      have near := inView history _ [] rfl answer last
      exact near.trans_lt follows

/-- One iteration keeps what is asked for and shown in range. -/
theorem Paging.iterate (paging : Paging limit total history effects controller)
    (run : Controller.Run initial history controller)
    (nextRun : Controller.Run initial (history ++ calls) next) {more : List WatchEffect}
    (iteration : Watch.Iteration controller answered calls more next)
    (served : History.ServedFrom (history ++ calls) total)
    (inView : History.InView (history ++ calls)) :
    Paging limit total (history ++ calls) (effects ++ more) next := by
  have asked : next.state.InRange limit total ∧
      ∀ request ∈ History.issued (history ++ calls), request.state.InRange limit total := by
    cases iteration with
    | refresh =>
        exact ⟨paging.state, (History.forall_mem_issued_concat rfl).mpr
          ⟨paging.issued, paging.state⟩⟩
    | change change allowed =>
        have turned : (controller.state.apply change).InRange limit total := by
          refine paging.state.apply change ?_
          rintro rfl
          exact nextPage_in_range run served.of_append inView allowed
        exact ⟨turned, (History.forall_mem_issued_concat rfl).mpr ⟨paging.issued, turned⟩⟩
    | idle => exact ⟨paging.state, by simpa using paging.issued⟩
    | drop request outcome now late =>
        exact ⟨paging.state, by simpa [HistoryEntry.issued?] using paging.issued⟩
    | take request outcome now inTime =>
        rw [Controller.complete_state]
        exact ⟨paging.state, by simpa [HistoryEntry.issued?] using paging.issued⟩
  obtain ⟨state, issued⟩ := asked
  refine ⟨state, issued, fun screen banner shown => ?_⟩
  rw [presentations_append, presentations_of_iteration iteration] at shown
  rcases List.mem_append.mp shown with before | now
  · exact paging.presented screen banner before
  · -- the screen on show is that of a request issued so far, and those are all in range
    obtain ⟨_, _, isShown⟩ := List.mem_map.mp now
    obtain ⟨answer, _, isIssued, isPager⟩ :=
      nextRun.exists_page_on_show served (Prod.ext_iff.mp isShown).1
    exact ⟨_, issued _ isIssued, isPager⟩

theorem Run.paging {loop : PollingLoop} (run : Run initial history effects loop)
    (begins : initial.InRange limit total) (served : history.ServedFrom total)
    (inView : history.InView) : Paging limit total history effects loop.watch.controller := by
  induction run with
  | start => exact ⟨begins, nofun, fun _ _ shown => absurd shown List.not_mem_nil⟩
  | @step history effects loop run event offers ih =>
      have before := run.controller_run_and_outstanding.1
      have after := (run.step event offers).controller_run_and_outstanding.1
      exact (ih served.of_append inView.of_append).iterate before after
        (loop.watch.iteration offers.1 event) served inView

/-- On every run of the polling loop from the first page on, against a service with some runs,
which together with a page can be counted in a word: as long as no step to a next page leads
beyond the page after the one on show, the offset stays below the number of runs, and every
screen that is shown names a range of runs that there are. -/
theorem Run.pages_in_range {loop : PollingLoop} (run : Run initial history effects loop)
    (atFirst : initial.offset = 0) (positive : 1 ≤ initial.limit) (present : 0 < total)
    (fits : total.toNat + initial.limit.toNat < 2 ^ 64)
    (served : history.ServedFrom total) (inView : history.InView) :
    loop.watch.controller.state.offset < total ∧
    ∀ screen banner, (some screen, banner) ∈ presentations effects →
      ∃ pager first last, screen.pager? = some pager ∧
        pager.label = s!"Runs: {first}-{last} of {total.toNat}" ∧
        1 ≤ first ∧ first ≤ last ∧ last ≤ total.toNat := by
  have begins : initial.InRange initial.limit total :=
    ⟨rfl, by rw [atFirst]; exact UInt64.lt_iff_toNat_lt.mp present⟩
  obtain ⟨state, _, presented⟩ := run.paging begins served inView
  refine ⟨UInt64.lt_iff_toNat_lt.mpr state.offset, fun screen banner shown => ?_⟩
  obtain ⟨page, inRange, isPager⟩ := presented screen banner shown
  have bound := inRange.offset
  have size : 1 ≤ page.limit.toNat := by
    rw [inRange.limit]
    exact UInt32.le_iff_toNat_le.mp positive
  rw [← inRange.limit] at fits
  exact ⟨_, _, _, isPager, Pager.label_forPage bound fits, by omega, by omega, by omega⟩

/-- The first of two pages is fetched and turned, and the second is fetched. -/
theorem Run.pages_in_range_two_pages :
    let state := QueryState.fresh .snapshot 25
    let first : OpsRequest := ⟨1, 0, state⟩
    let second : OpsRequest := ⟨2, 1, state.apply .next⟩
    let page := OpsPayload.barePage 26
    let midnight : Timestamp := ⟨0, 0, false, 0⟩
    let history : History :=
      [.polled first, .answered ⟨first, .ok (page first.state), midnight⟩ .applied,
        .changed .next second, .answered ⟨second, .ok (page second.state), midnight⟩ .applied]
    let shown := (page second.state).screen midnight
    let loop : PollingLoop := ⟨⟨⟨second.state, 1, 2, 2, some shown, none⟩, true⟩, []⟩
    ∃ effects, Run state history effects loop ∧ history.ServedFrom 26 ∧ history.InView ∧
      (some shown, none) ∈ presentations effects ∧ second.state.offset < 26 ∧
      ∃ pager first last, shown.pager? = some pager ∧
        pager.label = s!"Runs: {first}-{last} of {(26 : UInt64).toNat}" ∧
        1 ≤ first ∧ first ≤ last ∧ last ≤ (26 : UInt64).toNat := by
  intro state first second page midnight history shown loop
  have fetched := (Run.start : Run state _ _ _).step .tick ⟨rfl, nofun⟩
    |>.step (.answer first (.ok (page first.state)) midnight)
      (offers_answer rfl (List.mem_singleton_self _) _ _)
  have run : Run state history _ loop :=
    fetched.step (.command (.change .next)) ⟨rfl, nofun⟩
      |>.step (.answer second (.ok (page second.state)) midnight)
        (offers_answer rfl (List.mem_singleton_self _) _ _)
  have served : history.ServedFrom 26 := by
    apply History.servedFrom_barePage
    simp +contextual [history, or_imp, page]
  have inView : history.InView := by
    intro earlier request later split answer last
    rcases earlier with _ | ⟨_, _ | ⟨_, _ | ⟨_, _ | ⟨_, rest⟩⟩⟩⟩ <;>
      simp only [history, List.nil_append, List.cons_append, List.cons.injEq, reduceCtorEq,
        false_and, and_false, List.nil_eq, List.append_eq_nil_iff, HistoryEntry.changed.injEq,
        true_and] at split
    obtain ⟨rfl, rfl, rfl, _⟩ := split
    obtain rfl := Option.some.inj last
    decide
  have inRange := run.pages_in_range rfl (by decide) (by decide) (by decide) served inView
  exact ⟨_, run, served, inView, by decide, inRange.1, inRange.2 _ none (by decide)⟩

/-- Two steps to the next page are taken below the first of two pages.  They lead to an offset
beyond the last run, and to a screen whose range ends before it starts. -/
theorem Run.pages_overshoot :
    let state := QueryState.fresh .snapshot 25
    let first : OpsRequest := ⟨1, 0, state⟩
    let second : OpsRequest := ⟨2, 1, state.apply .next⟩
    let third : OpsRequest := ⟨3, 2, second.state.apply .next⟩
    let page := OpsPayload.barePage 26
    let midnight : Timestamp := ⟨0, 0, false, 0⟩
    let history : History :=
      [.polled first, .answered ⟨first, .ok (page first.state), midnight⟩ .applied,
        .changed .next second, .changed .next third,
        .answered ⟨third, .ok (page third.state), midnight⟩ .applied]
    let shown := (page third.state).screen midnight
    let loop : PollingLoop := ⟨⟨⟨third.state, 2, 3, 3, some shown, none⟩, true⟩, [second]⟩
    ∃ effects, Run state history effects loop ∧ history.ServedFrom 26 ∧
      ¬third.state.offset < 26 ∧ (some shown, none) ∈ presentations effects ∧
      shown.pager?.map Pager.label = some "Runs: 51-26 of 26" := by
  intro state first second third page midnight history shown loop
  have fetched := (Run.start : Run state _ _ _).step .tick ⟨rfl, nofun⟩
    |>.step (.answer first (.ok (page first.state)) midnight)
      (offers_answer rfl (List.mem_singleton_self _) _ _)
  have turned : Run state _ _ ⟨⟨⟨third.state, 2, 3, 1,
      some ((page first.state).screen midnight), none⟩, true⟩, [second, third]⟩ :=
    fetched.step (.command (.change .next)) ⟨rfl, nofun⟩
      |>.step (.command (.change .next)) ⟨rfl, nofun⟩
  have underWay : third ∈ [second, third] := List.mem_of_mem_tail (List.mem_singleton_self third)
  have run : Run state history _ loop :=
    turned.step (.answer third (.ok (page third.state)) midnight)
      (offers_answer rfl underWay _ _)
  have served : history.ServedFrom 26 := by
    apply History.servedFrom_barePage
    simp +contextual [history, or_imp, page]
  exact ⟨_, run, served, by decide, by decide, by decide⟩

end PollingLoop

end ConnectorConsole
