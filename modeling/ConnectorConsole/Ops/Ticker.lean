/-!
# The refresh ticker

The ticker is due once every period, for the first time at the start. A tick
delivered late, by more than a short tolerance, moves the next one to a full
period after the delivery, so that missed ticks are not made up for.
-/

namespace ConnectorConsole

/-- A ticker. Times are counted in milliseconds from the start. -/
structure Ticker where
  period : Nat
  due : Nat
  period_pos : 0 < period

namespace Ticker

/-- By how much a tick may be late and still count as on time. -/
def tolerance : Nat := 5

/-- The ticker at its start. A period of zero counts as one. -/
def start (period : Nat) : Ticker :=
  ⟨max period 1, 0, by omega⟩

/-- When the tick after one delivered at `now` is due. -/
def dueAfter (ticker : Ticker) (now : Nat) : Nat :=
  if ticker.due + tolerance < now then now + ticker.period else ticker.due + ticker.period

theorem due_lt_dueAfter (ticker : Ticker) (now : Nat) : ticker.due < ticker.dueAfter now := by
  have positive := ticker.period_pos
  unfold dueAfter
  split <;> omega

/-- Deliver every tick that is due at `now`. The answer counts them. -/
def advance (ticker : Ticker) (now : Nat) : Nat × Ticker :=
  if ticker.due ≤ now then
    let (count, after) := advance { ticker with due := ticker.dueAfter now } now
    (count + 1, after)
  else (0, ticker)
termination_by now + 1 - ticker.due
decreasing_by
  have later := ticker.due_lt_dueAfter now
  omega

end Ticker

end ConnectorConsole
