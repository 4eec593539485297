import ConnectorConsole.Text.Uppercase

/-!
# Lower-case letters

The small letter that belongs to a capital one, found by reading the upper-case
table backwards. A few small letters share their capital with another one and
are never the answer.
-/

namespace ConnectorConsole

namespace Text

/-- Small letters whose capital belongs to another small letter: the micro sign,
the dotless i, the long s, final sigma and the Greek symbol forms. -/
def secondaryLetters : List Nat :=
  [0xB5, 0x131, 0x17F, 0x1C5, 0x1C8, 0x1CB, 0x1F2, 0x345, 0x3C2, 0x3D0, 0x3D1, 0x3D5, 0x3D6,
   0x3F0, 0x3F1, 0x3F5, 0x1E9B, 0x1FBE]

/-- The small letter of a run of the upper-case table that has the given
capital. -/
def lowerInRun? (code : Nat) (run : Nat × Nat × Nat × Int) : Option Nat :=
  let (first, last, step, distance) := run
  let small := (Int.ofNat code - distance).toNat
  if first ≤ small && small ≤ last && (small - first) % step == 0 &&
    !secondaryLetters.contains small then some small else none

/-- The small letter of a capital one; every other character stays. -/
def lowerChar (c : Char) : Char :=
  match upperRuns.findSome? (lowerInRun? c.toNat) with
  | some small => Char.ofNat small
  | none => c

end Text

end ConnectorConsole
