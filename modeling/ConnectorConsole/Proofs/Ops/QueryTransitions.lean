import ConnectorConsole.Ops.Query
import ConnectorConsole.Proofs.Text.CapitalLetters
import Mathlib.Tactic.SplitIfs

/-!
# Query states under transitions

Whatever a query string says and however the operator filters and turns pages, counts are
positive, the status filter is in capital letters, and a screen holds no value for a filter
that it does not have.  Taking all filters back on any screen therefore leaves nothing but
the page size of the state that was read.
-/

namespace ConnectorConsole

namespace QueryState

/-- The state after transitions, made one after the other. -/
def applyAll (state : QueryState) (transitions : List Transition) : QueryState :=
  transitions.foldl apply state

/-- A state whose values are in range, and absent where its screen has no use for them. -/
structure Settled (state : QueryState) : Prop where
  limit : 1 ≤ state.limit
  window : 1 ≤ state.windowHours
  status : Text.upper state.status = state.status
  fleetOnly : state.view ≠ .snapshot → state.windowHours = defaultWindow ∧ state.connectorId = ""
  noStatus : state.view = .runDetail → state.status = ""

theorem toNat_clampCount (number : Int) :
    (clampCount number).toNat = min (max number 1).toNat (2 ^ 32 - 1) := by
  have fits : min (max number 1).toNat (2 ^ 32 - 1) < 2 ^ 32 := by omega
  exact UInt32.toNat_ofNat_of_lt' fits

theorem toNat_clampOffset (number : Int) :
    (clampOffset number).toNat = min number.toNat (2 ^ 64 - 1) := by
  have fits : min number.toNat (2 ^ 64 - 1) < 2 ^ 64 := by omega
  exact UInt64.toNat_ofNat_of_lt' fits

theorem toNat_max_one (count : UInt32) : (max count 1).toNat = max count.toNat 1 := by
  change (if count ≤ 1 then 1 else count : UInt32).toNat = _
  split_ifs with small
  · have bound : count.toNat ≤ 1 := UInt32.le_iff_toNat_le.mp small
    exact (Nat.max_eq_right bound).symm
  · have bound : ¬count.toNat ≤ 1 := fun below => small (UInt32.le_iff_toNat_le.mpr below)
    omega

theorem one_le_clampCount (number : Int) : 1 ≤ clampCount number := by
  rw [UInt32.le_iff_toNat_le, toNat_clampCount]
  change 1 ≤ _
  omega

theorem one_le_max_one (count : UInt32) : 1 ≤ max count 1 := by
  rw [UInt32.le_iff_toNat_le, toNat_max_one]
  exact Nat.le_max_right _ _

theorem max_one_eq_self {count : UInt32} (positive : 1 ≤ count) : max count 1 = count := by
  rw [UInt32.le_iff_toNat_le] at positive
  rw [← UInt32.toNat_inj, toNat_max_one]
  exact Nat.max_eq_left positive

section Transitions

variable (state : QueryState)

theorem withFilters_keeps (filters : Filters) :
    (state.withFilters filters).target = state.target ∧
      (state.withFilters filters).limit = state.limit := by
  unfold withFilters
  dsimp only
  split <;> exact ⟨rfl, rfl⟩

theorem withoutFilters_keeps :
    state.withoutFilters.target = state.target ∧ state.withoutFilters.limit = state.limit := by
  unfold withoutFilters
  split <;> exact ⟨rfl, rfl⟩

/-- No transition changes what is looked at, or how much of it a page shows. -/
theorem apply_keeps (change : Transition) :
    (state.apply change).target = state.target ∧ (state.apply change).limit = state.limit := by
  cases change with
  | filter filters => exact withFilters_keeps state filters
  | reset => exact withoutFilters_keeps state
  | previous => exact ⟨rfl, rfl⟩
  | next => exact ⟨rfl, rfl⟩

theorem applyAll_keeps (transitions : List Transition) :
    (state.applyAll transitions).target = state.target ∧
      (state.applyAll transitions).limit = state.limit := by
  induction transitions generalizing state with
  | nil => exact ⟨rfl, rfl⟩
  | cons change rest ih =>
      obtain ⟨target, limit⟩ := apply_keeps state change
      obtain ⟨restTarget, restLimit⟩ := ih (state.apply change)
      exact ⟨restTarget.trans target, restLimit.trans limit⟩

end Transitions

namespace Settled

variable {state : QueryState}

theorem turnPage (settled : state.Settled) (offset : UInt64) :
    { state with offset := offset }.Settled :=
  ⟨settled.limit, settled.window, settled.status, settled.fleetOnly, settled.noStatus⟩

theorem withFilters (settled : state.Settled) (filters : Filters) :
    (state.withFilters filters).Settled := by
  have upper := Text.upper_upper (Text.trim filters.status)
  unfold QueryState.withFilters
  split
  next isFleet =>
    have window :
        1 ≤ (filters.windowHours.map fun hours => max hours 1).getD state.windowHours := by
      cases filters.windowHours with
      | none => exact settled.window
      | some hours => exact one_le_max_one hours
    exact {
      limit := settled.limit
      window := window
      status := upper
      fleetOnly := fun notFleet => absurd isFleet notFleet
      noStatus := fun isRun => absurd (isFleet.symm.trans isRun) (by decide) }
  next isConnector =>
    exact {
      limit := settled.limit
      window := settled.window
      status := upper
      fleetOnly := settled.fleetOnly
      noStatus := fun isRun => absurd (isConnector.symm.trans isRun) (by decide) }
  next => exact settled.turnPage 0

theorem withoutFilters (settled : state.Settled) : state.withoutFilters.Settled := by
  unfold QueryState.withoutFilters
  split
  next isFleet =>
    exact {
      limit := settled.limit
      window := (by decide : 1 ≤ defaultWindow)
      status := Text.upper_empty
      fleetOnly := fun _ => ⟨rfl, rfl⟩
      noStatus := fun _ => rfl }
  next =>
    exact {
      limit := settled.limit
      window := settled.window
      status := Text.upper_empty
      fleetOnly := settled.fleetOnly
      noStatus := fun _ => rfl }

theorem apply (settled : state.Settled) (change : Transition) : (state.apply change).Settled := by
  cases change with
  | filter filters => exact settled.withFilters filters
  | reset => exact settled.withoutFilters
  | previous => exact settled.turnPage _
  | next => exact settled.turnPage _

theorem applyAll (settled : state.Settled) (transitions : List Transition) :
    (state.applyAll transitions).Settled := by
  induction transitions generalizing state with
  | nil => exact settled
  | cons change rest ih => exact ih (settled.apply change)

/-- Without filters a settled state is a fresh one: a screen other than that of the fleet
has kept the window and the connector of a fresh state. -/
theorem withoutFilters_eq_fresh (settled : state.Settled) :
    state.withoutFilters = fresh state.target state.limit := by
  unfold QueryState.withoutFilters fresh
  rw [max_one_eq_self settled.limit]
  split
  next => rfl
  next notFleet =>
    obtain ⟨window, connectorId⟩ := settled.fleetOnly notFleet
    rw [window, connectorId]

end Settled

/-- What a query string describes is settled, malformed or not. -/
theorem settled_ofParameters (target : OpsTarget) (limit : UInt32)
    (find : String → Option String) : (ofParameters target limit find).Settled := by
  have upper := Text.upper_upper ((find "status").getD "")
  have counts := one_le_clampCount
  have window : 1 ≤ defaultWindow := by decide
  cases target with
  | snapshot => exact ⟨counts _, counts _, upper, fun notFleet => absurd rfl notFleet, nofun⟩
  | connector id => exact ⟨counts _, window, upper, fun _ => ⟨rfl, rfl⟩, nofun⟩
  | run id => exact ⟨counts _, window, Text.upper_empty, fun _ => ⟨rfl, rfl⟩, fun _ => rfl⟩

theorem settled_hydrate (target : OpsTarget) (query : String) (limit : UInt32) :
    (hydrate target query limit).Settled := by
  rw [hydrate]
  exact settled_ofParameters target limit _

/-- Page size and target of the state that was read stay through all transitions, counts stay
positive, the status filter stays in capital letters, and filters that a screen does not have
stay absent.  Taking all filters back leaves a fresh state, with no trace of what was chosen. -/
theorem reset_forgets (target : OpsTarget) (query : String) (limit : UInt32)
    (transitions : List Transition) :
    let hydrated := hydrate target query limit
    let state := hydrated.applyAll transitions
    state.target = hydrated.target ∧ state.limit = hydrated.limit ∧
      1 ≤ state.limit ∧ 1 ≤ state.windowHours ∧ Text.upper state.status = state.status ∧
      (state.view ≠ .snapshot → state.windowHours = 168 ∧ state.connectorId = "") ∧
      (state.view = .runDetail → state.status = "") ∧
      state.apply .reset = fresh hydrated.target hydrated.limit := by
  intro hydrated state
  have settled : state.Settled := (settled_hydrate target query limit).applyAll transitions
  obtain ⟨sameTarget, sameLimit⟩ : state.target = hydrated.target ∧ state.limit = hydrated.limit :=
    applyAll_keeps hydrated transitions
  have reset : state.apply .reset = fresh hydrated.target hydrated.limit := by
    rw [← sameTarget, ← sameLimit]
    exact settled.withoutFilters_eq_fresh
  exact ⟨sameTarget, sameLimit, settled.limit, settled.window, settled.status, settled.fleetOnly,
    settled.noStatus, reset⟩

end QueryState

end ConnectorConsole
