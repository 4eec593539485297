import ConnectorConsole.Proofs.Ops.Pages
import Mathlib.Tactic.SplitIfs

/-!
# Walking through the pages

An operator who starts at the first page, and goes on to the next page whenever it is on show and
the pager offers it, sees every run once.  The pages end where the runs end, and going back in the
same way shows them in reverse, down to the first.
-/

namespace ConnectorConsole

/-- A service with a fixed number of runs, which answers each request with the page asked for. -/
structure PageSource (total : UInt64) where
  payload : OpsRequest → OpsPayload
  /-- When the answer arrives. -/
  now : OpsRequest → Timestamp
  serves : ∀ request, (payload request).Serves request.state total

/-- How many pages there are.  Without runs there is one page, an empty one. -/
def pageCount (total limit : Nat) : Nat :=
  max 1 ((total + limit - 1) / limit)

/-- The first and the last run of a page. -/
def pageRange (total limit index : Nat) : Nat × Nat :=
  (index * limit + 1, min (index * limit + limit) total)

section Arithmetic

variable {total limit index : Nat}

theorem succ_lt_pageCount_iff (positive : 0 < limit) :
    index + 1 < pageCount total limit ↔ index * limit + limit < total := by
  have fits : index + 1 < (total + limit - 1) / limit ↔ index * limit + limit < total := by
    rw [← Nat.succ_le_iff, Nat.le_div_iff_mul_le positive, Nat.succ_mul, Nat.succ_mul]
    omega
  rw [pageCount, ← fits]
  omega

theorem offset_lt_total (positive : 0 < limit) (present : 0 < total)
    (isPage : index < pageCount total limit) : index * limit < total := by
  cases index with
  | zero => simpa using present
  | succ index =>
      rw [Nat.succ_mul]
      exact (succ_lt_pageCount_iff positive).mp isPage

theorem exists_last_page (total limit : Nat) : ∃ last, pageCount total limit = last + 1 :=
  Nat.exists_eq_add_one.mpr (Nat.le_max_left 1 _)

theorem total_le_pageCount_mul (positive : 0 < limit) : total ≤ pageCount total limit * limit := by
  obtain ⟨last, isLast⟩ := exists_last_page total limit
  have noMore : ¬last * limit + limit < total := by
    rw [← succ_lt_pageCount_iff positive]
    omega
  rw [isLast, Nat.succ_mul]
  omega

theorem pageCount_of_none (positive : 0 < limit) : pageCount 0 limit = 1 := by
  rw [pageCount, Nat.zero_add, Nat.div_eq_of_lt (Nat.sub_one_lt_of_lt positive)]
  rfl

/-- The runs of a range, in order. -/
def runsOf (range : Nat × Nat) : List Nat :=
  List.range' range.1 (range.2 + 1 - range.1)

/-- The first pages hold the first runs. -/
theorem flatMap_runsOf (positive : 0 < limit) (present : 0 < total) {count : Nat}
    (arePages : count ≤ pageCount total limit) :
    ((List.range count).map (pageRange total limit)).flatMap runsOf =
      List.range' 1 (min (count * limit) total) := by
  induction count with
  | zero => simp
  | succ count ih =>
      have before := offset_lt_total positive present (Nat.lt_of_succ_le arePages)
      rw [List.range_succ, List.map_append, List.flatMap_append, ih (Nat.le_of_succ_le arePages),
        Nat.min_eq_left (Nat.le_of_lt before)]
      simp only [List.map_cons, List.map_nil, List.flatMap_cons, List.flatMap_nil,
        List.append_nil, runsOf, pageRange]
      have start : count * limit + 1 = 1 + 1 * (count * limit) := by omega
      have following : (count + 1) * limit = count * limit + limit := Nat.succ_mul _ _
      rw [start, List.range'_append]
      congr 1
      omega

end Arithmetic

/-- The label of a page. -/
def pageLabel (total : UInt64) (limit index : Nat) : String :=
  (Pager.ofPage
    (some (RunsPage.new (UInt64.ofNat (index * limit)) (UInt64.ofNat limit) total))).label

namespace Controller

variable {total : UInt64} {source : PageSource total} {turn : Transition}
  {controller last : Controller} {labels : List String}

/-- Take in what is answered to a request just issued. -/
def fetched (source : PageSource total) (issue : OpsRequest × Controller) : Controller :=
  (issue.2.complete issue.1 (.ok (source.payload issue.1)) (source.now issue.1)).2

/-- A turn is made again and again for as long as it is offered, and each page is fetched before
the next turn.  The labels are those of the pages on show, in order. -/
inductive Walk (source : PageSource total) (turn : Transition) :
    Controller → List String → Controller → Prop where
  | stop {controller : Controller} {pager : Pager}
      (shown : controller.screen.bind Screen.pager? = some pager)
      (refused : controller.allows turn = false) :
      Walk source turn controller [pager.label] controller
  | turn {controller last : Controller} {pager : Pager} {labels : List String}
      (shown : controller.screen.bind Screen.pager? = some pager)
      (offered : controller.allows turn = true)
      (rest : Walk source turn (fetched source (controller.transition turn)) labels last) :
      Walk source turn controller (pager.label :: labels) last

/-- A walk leads to one end only. -/
theorem Walk.unique (walk : Walk source turn controller labels last) {otherLabels : List String}
    {otherLast : Controller} (other : Walk source turn controller otherLabels otherLast) :
    otherLabels = labels ∧ otherLast = last := by
  induction walk generalizing otherLabels otherLast with
  | stop shown refused =>
      cases other with
      | stop otherShown _ =>
          rw [shown, Option.some.injEq] at otherShown
          exact ⟨by rw [otherShown], rfl⟩
      | turn _ offered _ => simp [refused] at offered
  | turn shown offered rest ih =>
      cases other with
      | stop _ refused => simp [refused] at offered
      | turn otherShown _ otherRest =>
          rw [shown, Option.some.injEq] at otherShown
          obtain ⟨sameLabels, sameLast⟩ := ih otherRest
          exact ⟨by rw [otherShown, sameLabels], sameLast⟩

/-- The page with the given number is asked for and on show. -/
structure AtPage (controller : Controller) (total : UInt64) (limit index : Nat) : Prop where
  inOrder : controller.accepted ≤ controller.issued
  isLimit : controller.state.limit.toNat = limit
  isOffset : controller.state.offset.toNat = index * limit
  onPage : controller.OnPage controller.state total

variable {limit index : Nat}

/-- A page that is asked for is on show once it is fetched. -/
theorem atPage_fetched (source : PageSource total) (inOrder : controller.accepted ≤ controller.issued)
    (isLimit : controller.state.limit.toNat = limit)
    (isOffset : controller.state.offset.toNat = index * limit) :
    (fetched source controller.poll).AtPage total limit index := by
  have inTime : ¬controller.poll.2.outdated controller.poll.1 = true := by
    rw [outdated_iff]
    rintro (otherGeneration | taken)
    · exact otherGeneration rfl
    · exact absurd (Nat.le_trans taken inOrder) (Nat.not_succ_le_self _)
  rw [fetched, complete, if_neg inTime]
  exact ⟨Nat.le_refl _, isLimit, isOffset, (source.serves controller.poll.1).pager? _⟩

namespace AtPage

theorem label (atPage : controller.AtPage total limit index) :
    (Pager.forPage controller.state total).label = pageLabel total limit index := by
  have isOffset : UInt64.ofNat (index * limit) = controller.state.offset := by
    rw [← atPage.isOffset, UInt64.ofNat_toNat]
  have isLimit : UInt64.ofNat limit = controller.state.limit.toUInt64 := by
    rw [← atPage.isLimit, ← UInt32.toNat_toUInt64, UInt64.ofNat_toNat]
  rw [pageLabel, isOffset, isLimit, Pager.forPage]

theorem allows_next_iff (atPage : controller.AtPage total limit index) (positive : 0 < limit) :
    controller.allows .next = true ↔ index + 1 < pageCount total.toNat limit := by
  rw [atPage.onPage.allows_next_iff, atPage.isLimit, atPage.isOffset,
    succ_lt_pageCount_iff positive]

theorem allows_previous_iff (atPage : controller.AtPage total limit index) (positive : 0 < limit) :
    controller.allows .previous = true ↔ 0 < index := by
  rw [atPage.onPage.allows_previous_iff, atPage.isOffset, Nat.mul_pos_iff_of_pos_right positive]

theorem next (atPage : controller.AtPage total limit index) (source : PageSource total)
    (follows : index * limit + limit < total.toNat) :
    (fetched source (controller.transition .next)).AtPage total limit (index + 1) := by
  refine atPage_fetched source atPage.inOrder atPage.isLimit ?_
  have room : controller.state.offset.toNat + controller.state.limit.toNat < total.toNat := by
    rwa [atPage.isLimit, atPage.isOffset]
  change controller.state.nextPage.offset.toNat = _
  rw [QueryState.toNat_offset_nextPage room, atPage.isLimit, atPage.isOffset, Nat.succ_mul]

theorem previous (atPage : controller.AtPage total limit (index + 1)) (source : PageSource total) :
    (fetched source (controller.transition .previous)).AtPage total limit index := by
  refine atPage_fetched source atPage.inOrder atPage.isLimit ?_
  change controller.state.previousPage.offset.toNat = _
  rw [QueryState.toNat_offset_previousPage, atPage.isLimit, atPage.isOffset, Nat.succ_mul,
    Nat.add_sub_cancel]

theorem walk_stop (atPage : controller.AtPage total limit index)
    (refused : controller.allows turn = false) :
    Walk source turn controller [pageLabel total limit index] controller := by
  rw [← atPage.label]
  exact .stop atPage.onPage refused

theorem walk_turn (atPage : controller.AtPage total limit index)
    (offered : controller.allows turn = true)
    (rest : Walk source turn (fetched source (controller.transition turn)) labels last) :
    Walk source turn controller (pageLabel total limit index :: labels) last := by
  rw [← atPage.label]
  exact .turn atPage.onPage offered rest

/-- Going on from a page shows all the pages from it to the last. -/
theorem walk_next (atPage : controller.AtPage total limit index) (source : PageSource total)
    (positive : 0 < limit) {further : Nat}
    (isCount : index + further + 1 = pageCount total.toNat limit) :
    ∃ last, Walk source .next controller
        ((List.range' index (further + 1)).map (pageLabel total limit)) last ∧
      last.AtPage total limit (index + further) := by
  -- on the pages that are still to come; the page on show is the one asked for throughout
  induction further generalizing controller index with
  | zero =>
      have refused : controller.allows .next = false := by
        rw [Bool.eq_false_iff, ne_eq, atPage.allows_next_iff positive]
        omega
      exact ⟨controller, atPage.walk_stop refused, atPage⟩
  | succ further ih =>
      have offered : index + 1 < pageCount total.toNat limit := by omega
      have turned := atPage.next source ((succ_lt_pageCount_iff positive).mp offered)
      obtain ⟨last, rest, atLast⟩ := ih turned (by omega)
      rw [Nat.add_right_comm, Nat.add_assoc] at atLast
      exact ⟨last, atPage.walk_turn ((atPage.allows_next_iff positive).mpr offered) rest, atLast⟩

/-- Going back from a page shows all the pages from it to the first. -/
theorem walk_previous (atPage : controller.AtPage total limit index) (source : PageSource total)
    (positive : 0 < limit) :
    ∃ home, Walk source .previous controller
        ((List.range (index + 1)).map (pageLabel total limit)).reverse home ∧
      home.AtPage total limit 0 := by
  induction index generalizing controller with
  | zero =>
      have refused : controller.allows .previous = false := by
        rw [Bool.eq_false_iff, ne_eq, atPage.allows_previous_iff positive]
        omega
      exact ⟨controller, atPage.walk_stop refused, atPage⟩
  | succ index ih =>
      obtain ⟨home, rest, atHome⟩ := ih (atPage.previous source)
      have offered := (atPage.allows_previous_iff positive).mpr (Nat.succ_pos index)
      rw [List.range_succ, List.map_append, List.reverse_append]
      exact ⟨home, atPage.walk_turn offered rest, atHome⟩

end AtPage

/-- A page with runs on it is labelled by its range. -/
theorem pageLabel_eq (fits : total.toNat + limit < 2 ^ 64)
    (within : index * limit < total.toNat) :
    pageLabel total limit index =
      Pager.rangeLabel total.toNat (pageRange total.toNat limit index) := by
  have limitFits : limit < 2 ^ 64 := by omega
  have offsetFits : index * limit < 2 ^ 64 := by omega
  have isLimit : (UInt64.ofNat limit).toNat = limit := UInt64.toNat_ofNat_of_lt' limitFits
  have isOffset : (UInt64.ofNat (index * limit)).toNat = index * limit :=
    UInt64.toNat_ofNat_of_lt' offsetFits
  rw [pageLabel, Pager.label_ofPage (by rwa [isOffset]) (by rwa [isLimit]), isOffset, isLimit]
  rfl

/-- The labels of all pages. -/
theorem labels_eq (positive : 0 < limit) (fits : total.toNat + limit < 2 ^ 64) :
    (List.range (pageCount total.toNat limit)).map (pageLabel total limit) =
    if total = 0 then ["Runs: No runs"]
    else ((List.range (pageCount total.toNat limit)).map (pageRange total.toNat limit)).map
      fun range => s!"Runs: {range.1}-{range.2} of {total.toNat}" := by
  split_ifs with isEmpty
  · rw [isEmpty, UInt64.toNat_zero, pageCount_of_none positive]
    rfl
  · rw [List.map_map]
    refine List.map_congr_left fun index isIndex => pageLabel_eq fits ?_
    exact offset_lt_total positive (UInt64.lt_iff_toNat_lt.mp (UInt64.pos_iff_ne_zero.mpr isEmpty))
      (List.mem_range.mp isIndex)

/-- The operator starts at the first page and goes on to the next one whenever it is offered.  The
walk ends after as many pages as hold all runs, at least one.  As long as the runs and a page
together can be counted in a word, the ranges on show hold every run once and in order, and there
are none without runs.  Going back shows the same pages in reverse, down to the first. -/
theorem walk_shows_every_run (source : PageSource total) {initial : QueryState}
    (atFirst : initial.offset = 0) (positive : 1 ≤ initial.limit) :
    let limit := initial.limit.toNat
    let start := fetched source (Controller.new initial).poll
    let ranges := (List.range (pageCount total.toNat limit)).map (pageRange total.toNat limit)
    let labels :=
      if total = 0 then ["Runs: No runs"]
      else ranges.map fun range => s!"Runs: {range.1}-{range.2} of {total.toNat}"
    labels.length = max 1 ((total.toNat + limit - 1) / limit) ∧
    (0 < total → (∀ range ∈ ranges, range.1 ≤ range.2) ∧
      ranges.flatMap runsOf = List.range' 1 total.toNat) ∧
    ∃ pages last home,
      pages.length = labels.length ∧ (total.toNat + limit < 2 ^ 64 → pages = labels) ∧
      (∀ shown other, Walk source .next start shown other ↔ shown = pages ∧ other = last) ∧
      (∀ shown other, Walk source .previous last shown other ↔
        shown = pages.reverse ∧ other = home) ∧
      home.state.offset = 0 := by
  intro limit start ranges labels
  have sized : 0 < limit := UInt32.le_iff_toNat_le.mp positive
  have isCount : labels.length = pageCount total.toNat limit := by
    by_cases isEmpty : total = 0
    · simp only [labels, if_pos isEmpty, isEmpty, UInt64.toNat_zero, pageCount_of_none sized,
        List.length_singleton]
    · simp only [labels, if_neg isEmpty, ranges, List.length_map, List.length_range]
  obtain ⟨further, isFurther⟩ := exists_last_page total.toNat limit
  have atStart : start.AtPage total limit 0 := by
    apply atPage_fetched source (Nat.le_refl 0) rfl
    rw [Nat.zero_mul]
    exact congrArg UInt64.toNat atFirst
  have fromFirst : 0 + further + 1 = pageCount total.toNat limit := by omega
  obtain ⟨last, onward, atLast⟩ := atStart.walk_next source sized fromFirst
  obtain ⟨home, back, atHome⟩ := atLast.walk_previous source sized
  rw [← List.range_eq_range', ← isFurther] at onward
  rw [Nat.zero_add, ← isFurther] at back
  refine ⟨?_, fun present => ⟨?_, ?_⟩, _, last, home, ?_, labels_eq sized, ?_, ?_, ?_⟩
  · rw [isCount, pageCount]
  · intro range isRange
    obtain ⟨index, isIndex, rfl⟩ := List.mem_map.mp isRange
    have before := offset_lt_total sized (UInt64.lt_iff_toNat_lt.mp present)
      (List.mem_range.mp isIndex)
    simp only [pageRange]
    omega
  · rw [flatMap_runsOf sized (UInt64.lt_iff_toNat_lt.mp present) (Nat.le_refl _),
      Nat.min_eq_right (total_le_pageCount_mul sized)]
  · rw [isCount, List.length_map, List.length_range]
  · intro shown other
    exact ⟨onward.unique, by rintro ⟨rfl, rfl⟩; exact onward⟩
  · intro shown other
    exact ⟨back.unique, by rintro ⟨rfl, rfl⟩; exact back⟩
  · have isZero := atHome.isOffset
    rw [Nat.zero_mul] at isZero
    exact UInt64.toNat_inj.mp isZero

/-- Fifty-one runs on pages of twenty-five. -/
theorem walk_shows_every_run_three_pages :
    let source : PageSource 51 :=
      ⟨fun request => .barePage 51 request.state, fun _ => ⟨0, 0, false, 0⟩,
        fun request => OpsPayload.barePage_serves 51 request.state⟩
    let initial := QueryState.fresh .snapshot 25
    let start := fetched source (Controller.new initial).poll
    ∃ last home,
      Walk source .next start ["Runs: 1-25 of 51", "Runs: 26-50 of 51", "Runs: 51-51 of 51"] last ∧
      Walk source .previous last ["Runs: 51-51 of 51", "Runs: 26-50 of 51", "Runs: 1-25 of 51"]
        home ∧
      home.state.offset = 0 := by
  intro source initial start
  obtain ⟨_, _, pages, last, home, _, isLabels, onward, back, atHome⟩ :=
    walk_shows_every_run source (rfl : initial.offset = 0) (by decide)
  have isPages := isLabels (by decide)
  rw [isPages] at onward back
  exact ⟨last, home, (onward _ _).mpr ⟨by decide, rfl⟩, (back _ _).mpr ⟨by decide, rfl⟩, atHome⟩

end Controller

end ConnectorConsole
