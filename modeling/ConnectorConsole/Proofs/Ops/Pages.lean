import ConnectorConsole.Ops.Controller
import Mathlib.Algebra.Group.Nat.Defs
import Mathlib.Data.UInt

/-!
# Pages of runs

A service cuts its runs into pages, and a screen names the runs of its page, counted from one.
The page after it is offered exactly when runs follow, and the page before it exactly when runs
precede.
-/

namespace ConnectorConsole

/-- The page of runs that a payload holds.  That of a run has none. -/
def OpsPayload.runsPage? : OpsPayload → Option RunsPage
  | .snapshot served => served.runsPage
  | .connector detail => detail.runsPage
  | .run _ => none

/-- A payload holds the page that a query state asks for, of so many runs. -/
def OpsPayload.Serves (payload : OpsPayload) (state : QueryState) (total : UInt64) : Prop :=
  payload.runsPage? = some (RunsPage.new state.offset state.limit.toUInt64 total)

/-- The label of a page from the first to the last of its runs. -/
def Pager.rangeLabel (total : Nat) (range : Nat × Nat) : String :=
  s!"Runs: {range.1}-{range.2} of {total}"

namespace QueryState

variable {state : QueryState} {total : UInt64}

theorem offset_withFilters (filters : Filters) : (state.withFilters filters).offset = 0 := by
  unfold withFilters
  dsimp only
  split <;> rfl

theorem offset_withoutFilters : state.withoutFilters.offset = 0 := by
  unfold withoutFilters
  split <;> rfl

/-- The state moved to an offset, or to the greatest one if that is too large. -/
def atOffset (state : QueryState) (offset : Nat) : QueryState :=
  { state with offset := UInt64.ofNat (min offset (2 ^ 64 - 1)) }

section AtOffset

variable (state) (offset other : Nat)

theorem toNat_atOffset : (state.atOffset offset).offset.toNat = min offset (2 ^ 64 - 1) := by
  have fits : min offset (2 ^ 64 - 1) < 2 ^ 64 := by omega
  exact UInt64.toNat_ofNat_of_lt' fits

theorem atOffset_atOffset : (state.atOffset offset).atOffset other = state.atOffset other :=
  rfl

theorem atOffset_limit : (state.atOffset offset).limit = state.limit :=
  rfl

theorem offset_le : state.offset.toNat ≤ 2 ^ 64 - 1 :=
  Nat.le_pred_of_lt state.offset.toNat_lt

theorem atOffset_eq_self_iff :
    state.atOffset offset = state ↔ min offset (2 ^ 64 - 1) = state.offset.toNat := by
  rw [← toNat_atOffset state offset, UInt64.toNat_inj]
  constructor
  · exact fun same => congrArg QueryState.offset same
  · exact fun same => congrArg (fun moved => { state with offset := moved }) same

theorem nextPage_eq : state.nextPage = state.atOffset (state.offset.toNat + state.limit.toNat) :=
  rfl

theorem previousPage_eq :
    state.previousPage = state.atOffset (state.offset.toNat - state.limit.toNat) := by
  have inRange := state.offset_le
  have unstopped : min (state.offset.toNat - state.limit.toNat) (2 ^ 64 - 1) =
      state.offset.toNat - state.limit.toNat := by omega
  rw [previousPage, atOffset, unstopped]

end AtOffset

theorem toNat_offset_previousPage :
    state.previousPage.offset.toNat = state.offset.toNat - state.limit.toNat := by
  have inRange := state.offset_le
  rw [previousPage_eq, toNat_atOffset]
  omega

/-- There is room for the offset of the next page when a run is on that page. -/
theorem toNat_offset_nextPage (follows : state.offset.toNat + state.limit.toNat < total.toNat) :
    state.nextPage.offset.toNat = state.offset.toNat + state.limit.toNat := by
  have fits : total.toNat < 2 ^ 64 := total.toNat_lt
  rw [nextPage_eq, toNat_atOffset]
  omega

end QueryState

namespace Pager

variable {state : QueryState} {total : UInt64}

/-- The controls below the page that a query state asks for. -/
def forPage (state : QueryState) (total : UInt64) : Pager :=
  ofPage (some (RunsPage.new state.offset state.limit.toUInt64 total))

theorem hasNext_forPage :
    (forPage state total).hasNext = true ↔
      state.offset.toNat + state.limit.toNat < total.toNat := by
  have fits : total.toNat < 2 ^ 64 := total.toNat_lt
  have more : (forPage state total).hasNext = true ↔
      min (state.offset.toNat + state.limit.toNat) (2 ^ 64 - 1) < total.toNat := by
    rw [← UInt32.toNat_toUInt64]
    exact decide_eq_true_iff
  rw [more]
  omega

theorem hasPrevious_forPage :
    (forPage state total).hasPrevious = true ↔ 0 < state.offset.toNat :=
  decide_eq_true_iff.trans UInt64.lt_iff_toNat_lt

/-- A page with runs on it is labelled by their range, when the last run and a page after it can
still be counted. -/
theorem label_ofPage {offset limit : UInt64} (within : offset.toNat < total.toNat)
    (fits : total.toNat + limit.toNat < 2 ^ 64) :
    (ofPage (some (RunsPage.new offset limit total))).label = rangeLabel total.toNat
      (offset.toNat + 1, min (offset.toNat + limit.toNat) total.toNat) := by
  have notNone : ¬total = 0 := by
    rintro rfl
    exact absurd within (Nat.not_lt_zero _)
  have counted : total.toNat < 2 ^ 64 := total.toNat_lt
  have first : (offset + 1).toNat = offset.toNat + 1 := by
    rw [UInt64.toNat_add, UInt64.toNat_one]
    omega
  have last : (min (offset + limit) total).toNat =
      min (offset.toNat + limit.toNat) total.toNat := by
    rw [UInt64.toNat_min, UInt64.toNat_add, Nat.mod_eq_of_lt (by omega)]
  change "Runs: " ++ (if total = 0 then "No runs" else _) = _
  rw [if_neg notNone]
  simp only [RunsPage.new, rangeLabel, toString, String.append_assoc, first, last]

theorem label_forPage (within : state.offset.toNat < total.toNat)
    (fits : total.toNat + state.limit.toNat < 2 ^ 64) :
    (forPage state total).label = rangeLabel total.toNat
      (state.offset.toNat + 1, min (state.offset.toNat + state.limit.toNat) total.toNat) := by
  rw [forPage, label_ofPage within (by rwa [UInt32.toNat_toUInt64]), UInt32.toNat_toUInt64]

end Pager

/-- A screen made from a page has the controls of that page. -/
theorem OpsPayload.Serves.pager? {payload : OpsPayload} {state : QueryState} {total : UInt64}
    (serves : payload.Serves state total) (now : Timestamp) :
    (payload.screen now).pager? = some (Pager.forPage state total) := by
  cases payload with
  | snapshot served => exact congrArg (fun page => some (Pager.ofPage page)) serves
  | connector detail => exact congrArg (fun page => some (Pager.ofPage page)) serves
  | run record => cases serves

/-- A fleet without connectors, on the page that a query state asks for. -/
def OpsPayload.barePage (total : UInt64) (state : QueryState) : OpsPayload :=
  .snapshot ⟨.blank, [], [], some (RunsPage.new state.offset state.limit.toUInt64 total)⟩

theorem OpsPayload.barePage_serves (total : UInt64) (state : QueryState) :
    (barePage total state).Serves state total :=
  rfl

namespace Controller

variable {controller : Controller} {state : QueryState} {total : UInt64}

/-- The page that a query state asks for is on show. -/
def OnPage (controller : Controller) (state : QueryState) (total : UInt64) : Prop :=
  controller.screen.bind Screen.pager? = some (Pager.forPage state total)

theorem OnPage.allows_next_iff (onPage : controller.OnPage state total) :
    controller.allows .next = true ↔ state.offset.toNat + state.limit.toNat < total.toNat := by
  rw [allows, onPage]
  exact Pager.hasNext_forPage

theorem OnPage.allows_previous_iff (onPage : controller.OnPage state total) :
    controller.allows .previous = true ↔ 0 < state.offset.toNat := by
  rw [allows, onPage]
  exact Pager.hasPrevious_forPage

end Controller

end ConnectorConsole
