import ConnectorConsole.Proofs.Ops.Pages
import ConnectorConsole.Proofs.Ops.QueryTransitions

/-!
# Turning many pages

Turning a page moves the offset by the size of a page, but not below zero and not above the
greatest offset.  Turns in one direction are stopped on one side only, so that many of them come
to one long move that is stopped there.  Turning back leads to the same page unless the first
move was stopped.
-/

namespace ConnectorConsole

namespace QueryState

section Turns

variable (state : QueryState) (turns : Nat)

/-- The state after so many turns to the next page. -/
def turnOn : QueryState :=
  state.applyAll (List.replicate turns .next)

/-- The state after so many turns to the page before. -/
def turnBack : QueryState :=
  state.applyAll (List.replicate turns .previous)

/-- Once an offset was stopped at the greatest, further turns leave it there. -/
theorem turnOn_eq :
    state.turnOn turns = state.atOffset (state.offset.toNat + turns * state.limit.toNat) := by
  induction turns generalizing state with
  | zero =>
      have inRange := state.offset_le
      exact ((state.atOffset_eq_self_iff _).mpr (by omega)).symm
  | succ turns ih =>
      have first : state.turnOn (turns + 1) = state.nextPage.turnOn turns := rfl
      rw [first, ih, nextPage_eq, toNat_atOffset, atOffset_limit, atOffset_atOffset, Nat.succ_mul,
        atOffset, atOffset]
      congr 2
      omega

theorem turnBack_eq :
    state.turnBack turns = state.atOffset (state.offset.toNat - turns * state.limit.toNat) := by
  induction turns generalizing state with
  | zero =>
      have inRange := state.offset_le
      exact ((state.atOffset_eq_self_iff _).mpr (by omega)).symm
  | succ turns ih =>
      have first : state.turnBack (turns + 1) = state.previousPage.turnBack turns := rfl
      have inRange := state.offset_le
      rw [first, ih, previousPage_eq, toNat_atOffset, atOffset_limit, atOffset_atOffset,
        Nat.succ_mul]
      congr 1
      omega

end Turns

/-- So many turns move the offset by as many pages, up to the greatest offset or down to zero,
and change nothing else.  Turning on and back again leads to the same state exactly when no turn
on was stopped, or nothing precedes; turning back and on again exactly when so many pages
precede. -/
theorem turns_move_offset (state : QueryState) (turns : Nat) :
    let span := turns * state.limit.toNat
    state.turnOn turns = { state with offset := (state.turnOn turns).offset } ∧
      (state.turnOn turns).offset.toNat = min (state.offset.toNat + span) (2 ^ 64 - 1) ∧
      state.turnBack turns = { state with offset := (state.turnBack turns).offset } ∧
      ((state.turnBack turns).offset.toNat : Int) = max ((state.offset.toNat : Int) - span) 0 ∧
      ((state.turnOn turns).turnBack turns = state ↔
        state.offset.toNat + span ≤ 2 ^ 64 - 1 ∨ state.offset = 0) ∧
      (span ≤ 2 ^ 64 - 1 →
        ((state.turnBack turns).turnOn turns = state ↔ span ≤ state.offset.toNat)) := by
  intro span
  have inRange := state.offset_le
  have isZero : state.offset = 0 ↔ state.offset.toNat = 0 := UInt64.toNat_inj.symm
  have on : state.turnOn turns = state.atOffset (state.offset.toNat + span) := turnOn_eq state turns
  have back : state.turnBack turns = state.atOffset (state.offset.toNat - span) :=
    turnBack_eq state turns
  have onBack : (state.turnOn turns).turnBack turns =
      state.atOffset (min (state.offset.toNat + span) (2 ^ 64 - 1) - span) := by
    rw [on, turnBack_eq, toNat_atOffset, atOffset_limit, atOffset_atOffset]
  have backOn : (state.turnBack turns).turnOn turns =
      state.atOffset (min (state.offset.toNat - span) (2 ^ 64 - 1) + span) := by
    rw [back, turnOn_eq, toNat_atOffset, atOffset_limit, atOffset_atOffset]
  refine ⟨?_, ?_, ?_, ?_, ?_, ?_⟩
  · rw [on]
    rfl
  · rw [on, toNat_atOffset]
  · rw [back]
    rfl
  · rw [back, toNat_atOffset]
    omega
  · rw [onBack, atOffset_eq_self_iff, isZero]
    omega
  · intro fits
    rw [backOn, atOffset_eq_self_iff]
    omega

/-- Pages of the greatest size, turned back and on again over the whole range of offsets, lead
from near the first offset to the greatest. -/
theorem turns_move_offset_whole_range :
    let state : QueryState := { fresh .snapshot 4294967295 with offset := 5 }
    4294967297 * state.limit.toNat ≤ 2 ^ 64 - 1 ∧
      (state.turnBack 4294967297).turnOn 4294967297 ≠ state := by
  intro state
  have fits : 4294967297 * state.limit.toNat ≤ 2 ^ 64 - 1 := by decide
  obtain ⟨-, -, -, -, -, backOn⟩ := turns_move_offset state 4294967297
  exact ⟨fits, fun same => absurd ((backOn fits).mp same) (by decide)⟩

end QueryState

end ConnectorConsole
