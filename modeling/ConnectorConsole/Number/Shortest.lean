import ConnectorConsole.Number.Binary64

/-!
# Shortest decimal digits

A finite number is written with the fewest decimal digits that still round to
it. Among the decimals of that length inside the interval of values that round
to the number, the nearest one is taken; an exact tie is settled by the caller.
-/

namespace ConnectorConsole

namespace Binary64

/-- How to choose between two decimals that are equally near. -/
inductive DecimalTie where
  | toEven
  | upward
deriving DecidableEq

/-- A natural number times a power of ten. -/
structure Decimal where
  digits : Nat
  exponent : Int
deriving DecidableEq, Repr

/-- The values that round to a positive number, as multiples of a quarter of its
last bit: the lower end, the number itself and the upper end. -/
structure Interval where
  low : Nat
  middle : Nat
  high : Nat
  closed : Bool

/-- The interval around a significand at an exponent. Below a power of two the
gap is half as wide, except where the exponent is least. -/
def interval (significand : Nat) (exponent : Int) : Interval :=
  let narrow := significand = normalBound ∧ exponent ≠ leastExponent
  { low := 4 * significand - (if narrow then 1 else 2)
    middle := 4 * significand
    high := 4 * significand + 2
    closed := significand % 2 = 0 }

/-- Whether a point lies inside the interval, both measured on one scale. -/
def Interval.holds (bounds : Interval) (scale point : Nat) : Bool :=
  if bounds.closed then bounds.low * scale ≤ point && point ≤ bounds.high * scale
  else bounds.low * scale < point && point < bounds.high * scale

/-- The decimal on the grid of the given power of ten that lies in the interval
and is nearest to its middle. -/
def onGrid (tie : DecimalTie) (bounds : Interval) (exponent grid : Int) : Option Decimal :=
  let (quarters, perQuarter) := powerRatio (exponent - 2)
  let (gridSize, perGrid) : Nat × Nat :=
    if 0 ≤ grid then (tenTo grid.toNat, 1) else (1, tenTo (-grid).toNat)
  let scale := quarters * perGrid
  let unit := gridSize * perQuarter
  let middle := bounds.middle * scale
  let below := middle / unit
  let belowFits := bounds.holds scale (below * unit)
  let aboveFits := bounds.holds scale ((below + 1) * unit)
  let distance := 2 * (middle % unit)
  match belowFits, aboveFits with
  | false, false => none
  | true, false => some ⟨below, grid⟩
  | false, true => some ⟨below + 1, grid⟩
  | true, true =>
    if distance < unit then some ⟨below, grid⟩
    else if unit < distance then some ⟨below + 1, grid⟩
    else
      match tie with
      | .upward => some ⟨below + 1, grid⟩
      | .toEven => some ⟨if below % 2 = 0 then below else below + 1, grid⟩

/-- The first hit on the grids from coarse to fine. -/
def searchGrids (tie : DecimalTie) (bounds : Interval) (exponent : Int) :
    Nat → Int → Decimal
  | 0, grid => ⟨0, grid⟩
  | steps + 1, grid =>
    match onGrid tie bounds exponent grid with
    | some decimal => decimal
    | none => searchGrids tie bounds exponent steps (grid - 1)

/-- The shortest decimal of a positive significand at an exponent. Seventeen
digits always suffice, so the search from just above the leading digit ends
within its steps. -/
def shortest (tie : DecimalTie) (significand : Nat) (exponent : Int) : Decimal :=
  let leading : Int := (significand.log2 : Int) + exponent + 1
  let coarsest : Int := Int.fdiv (leading * 30103) 100000 + 1
  searchGrids tie (interval significand exponent) exponent 24 coarsest

end Binary64

end ConnectorConsole
