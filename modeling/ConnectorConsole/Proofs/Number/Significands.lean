import ConnectorConsole.Number.Reading
import Mathlib.Algebra.Order.Field.Power
import Mathlib.Algebra.Order.Field.Rat
import Mathlib.Data.Rat.Cast.Order
import Mathlib.Tactic.GCongr
import Mathlib.Tactic.Linarith
import Mathlib.Tactic.NormNum
import Mathlib.Tactic.Positivity

/-!
# Significands stay below their bound

The exponent of a ratio is chosen so that at most 53 bits of the ratio lie above it.
Rounding can only just reach the bound, in which case the number moves to the next
exponent.  Every number that is read therefore has a significand below the bound.
-/

namespace ConnectorConsole

namespace Binary64

variable {numerator denominator : Nat} {exponent : Int}

theorem shiftLeft_cast (number shift : Nat) :
    ((number <<< shift : Nat) : ℚ) = number * 2 ^ (shift : Int) := by
  rw [Nat.shiftLeft_eq]
  push_cast
  rw [zpow_natCast]

/-- Powers of two on either side of a ratio, by the sign of the exponent. -/
theorem belowPower_iff :
    belowPower numerator denominator exponent = true ↔
      (numerator : ℚ) < denominator * 2 ^ exponent := by
  rw [belowPower]
  split_ifs with nonnegative
  · rw [decide_eq_true_eq, ← Nat.cast_lt (α := ℚ), shiftLeft_cast,
      Int.toNat_of_nonneg nonnegative]
  · rw [decide_eq_true_eq, ← Nat.cast_lt (α := ℚ), shiftLeft_cast,
      Int.toNat_of_nonneg (by omega), zpow_neg, ← div_eq_mul_inv, div_lt_iff₀ (by positivity)]

theorem ratio_below_log2 (positive : 0 < denominator) :
    (numerator : ℚ) < denominator * 2 ^ ((numerator.log2 : Int) - denominator.log2 + 1) := by
  have above : (numerator : ℚ) < 2 ^ ((numerator.log2 : Int) + 1) := by
    have bound : numerator < 2 ^ (numerator.log2 + 1) := Nat.lt_log2_self
    exact_mod_cast bound
  have below : (2 : ℚ) ^ (denominator.log2 : Int) ≤ denominator := by
    have bound : 2 ^ denominator.log2 ≤ denominator := Nat.log2_self_le positive.ne'
    exact_mod_cast bound
  have split : (2 : ℚ) ^ ((numerator.log2 : Int) + 1) =
      2 ^ (denominator.log2 : Int) * 2 ^ ((numerator.log2 : Int) - denominator.log2 + 1) := by
    rw [← zpow_add₀ two_ne_zero]
    congr 1
    omega
  calc (numerator : ℚ) < 2 ^ ((numerator.log2 : Int) + 1) := above
    _ = 2 ^ (denominator.log2 : Int) * 2 ^ ((numerator.log2 : Int) - denominator.log2 + 1) := split
    _ ≤ denominator * 2 ^ ((numerator.log2 : Int) - denominator.log2 + 1) := by gcongr

/-- No more than 53 bits of a ratio lie above its exponent. -/
theorem ratio_below_exponentOf (positive : 0 < denominator) :
    (numerator : ℚ) < denominator * 2 ^ (exponentOf numerator denominator + 53) := by
  have widen {low high : Int} (ordered : low ≤ high)
      (below : (numerator : ℚ) < denominator * 2 ^ low) :
      (numerator : ℚ) < denominator * 2 ^ high := by
    have grows : (2 : ℚ) ^ low ≤ 2 ^ high := zpow_le_zpow_right₀ one_le_two ordered
    exact below.trans_le (by gcongr)
  rw [exponentOf]
  split_ifs with fits
  · exact widen (by omega) (belowPower_iff.mp fits)
  · exact widen (by omega) (ratio_below_log2 positive)

theorem roundQuotient_le {bound : Nat} (positive : 0 < denominator)
    (below : numerator ≤ bound * denominator) : roundQuotient numerator denominator ≤ bound := by
  have whole := Nat.div_add_mod numerator denominator
  have quotientBound : numerator / denominator ≤ bound := Nat.div_le_of_le_mul (by rwa [mul_comm])
  have roundsUp (part : 0 < numerator % denominator) : numerator / denominator + 1 ≤ bound := by
    by_contra large
    have same : numerator / denominator = bound := by omega
    rw [same, mul_comm] at whole
    omega
  rw [roundQuotient]
  split_ifs
  · exact quotientBound
  · exact roundsUp (by omega)
  · exact quotientBound
  · exact roundsUp (by omega)

/-- Rounding at the exponent of a ratio reaches the bound at most. -/
theorem roundScaled_le (positive : 0 < denominator)
    (below : (numerator : ℚ) < denominator * 2 ^ (exponent + 53)) :
    roundScaled numerator denominator exponent ≤ significandBound := by
  have bound : ((significandBound : Nat) : ℚ) = 2 ^ (53 : Int) := by
    norm_num [significandBound]
  rw [zpow_add₀ two_ne_zero, ← bound] at below
  rw [roundScaled]
  split_ifs with nonnegative
  · refine roundQuotient_le (by rw [Nat.shiftLeft_eq]; positivity) ?_
    rw [← Nat.cast_le (α := ℚ), Nat.cast_mul, shiftLeft_cast, Int.toNat_of_nonneg nonnegative]
    linarith
  · refine roundQuotient_le positive ?_
    rw [← Nat.cast_le (α := ℚ), Nat.cast_mul, shiftLeft_cast, Int.toNat_of_nonneg (by omega),
      zpow_neg, ← div_eq_mul_inv, div_le_iff₀ (by positivity)]
    linarith

/-- A number whose significand lies below the bound. -/
def Fits : Binary64 → Prop
  | .finite _ significand _ => significand < significandBound
  | _ => True

theorem fits_zero (negative : Bool) : (zero negative).Fits :=
  (by decide : 0 < significandBound)

theorem fits_ofRatio (negative : Bool) (positive : 0 < denominator) :
    (ofRatio negative numerator denominator).Fits := by
  have reaches := roundScaled_le positive (@ratio_below_exponentOf numerator _ positive)
  have normalFits : normalBound < significandBound := by decide
  rw [ofRatio]
  dsimp only
  split_ifs with isZero carries
  · exact fits_zero negative
  · trivial
  · exact normalFits
  · trivial
  · exact lt_of_le_of_ne reaches carries

theorem tenTo_pos (power : Nat) : 0 < tenTo power :=
  Nat.pow_pos (by decide)

theorem fits_ofDecimal (negative : Bool) (digits : Nat) (exponent : Int) :
    (ofDecimal negative digits exponent).Fits := by
  rw [ofDecimal]
  dsimp only
  split_ifs
  · exact fits_zero negative
  · trivial
  · exact fits_zero negative
  · exact fits_ofRatio negative (by decide)
  · exact fits_ofRatio negative (tenTo_pos _)

theorem fits_of_readUnsigned? {negative : Bool} {chars : List Char} {number : Binary64}
    (isRead : readUnsigned? negative chars = some number) : number.Fits := by
  rw [readUnsigned?] at isRead
  split at isRead
  next fraction rest _ =>
    dsimp only at isRead
    split_ifs at isRead
    split at isRead
    · cases isRead
      exact fits_ofDecimal negative _ _
    · split_ifs at isRead
      obtain ⟨exponent, _, rfl⟩ := Option.map_eq_some_iff.mp isRead
      exact fits_ofDecimal negative _ _

/-- Every number that is read has a significand below the bound. -/
theorem fits_of_read? {text : String} {number : Binary64} (isRead : read? text = some number) :
    number.Fits := by
  rw [read?] at isRead
  split at isRead
  dsimp only at isRead
  split_ifs at isRead
  · cases isRead
    trivial
  · cases isRead
    trivial
  · exact fits_of_readUnsigned? isRead

end Binary64

end ConnectorConsole
