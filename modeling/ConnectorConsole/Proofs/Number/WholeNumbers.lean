import ConnectorConsole.Proofs.Json.Scalars
import ConnectorConsole.Proofs.Number.Significands
import Mathlib.Data.List.TakeWhile

/-!
# Whole numbers read back

A whole number is held exactly when it has at most 53 bits before the zeros at its end.
The integer part of every number that is read is such a number, and each of them comes
back from its decimal digits.
-/

namespace ConnectorConsole

namespace Binary64

/-- Numbers with at most 53 bits before the zeros at their end. -/
def Whole (number : Nat) : Prop :=
  ∃ significand shift, significand < significandBound ∧ number = significand * 2 ^ shift

theorem whole_of_le {number : Nat} (small : number ≤ significandBound) : Whole number := by
  rcases Nat.lt_or_eq_of_le small with below | rfl
  · exact ⟨number, 0, below, (Nat.mul_one number).symm⟩
  · exact ⟨1, 53, by decide, by decide⟩

/-- The magnitude of a finite number, rounded toward zero. -/
def wholePart (significand : Nat) (exponent : Int) : Nat :=
  (ratio significand exponent).1 / (ratio significand exponent).2

theorem integerPart?_finite (negative : Bool) (significand : Nat) (exponent : Int) :
    (finite negative significand exponent).integerPart? =
      some (if negative then -(wholePart significand exponent : Int)
        else wholePart significand exponent) :=
  rfl

theorem wholePart_natCast (significand shift : Nat) :
    wholePart significand shift = significand * 2 ^ shift := by
  rw [wholePart, ratio, powerRatio, if_pos (Int.natCast_nonneg shift), Int.toNat_natCast]
  simp [Nat.shiftLeft_eq]

theorem wholePart_neg (significand shift : Nat) :
    wholePart significand (-(shift : Int)) = significand / 2 ^ shift := by
  rcases Nat.eq_zero_or_pos shift with rfl | positive
  · exact (wholePart_natCast significand 0).trans (by simp)
  · rw [wholePart, ratio, powerRatio, if_neg (by omega), neg_neg, Int.toNat_natCast]
    simp [Nat.shiftLeft_eq]

/-- Rounding toward zero keeps all bits of a large number and at most 53 of a small one. -/
theorem whole_of_integerPart? {number : Binary64} (fits : number.Fits) {part : Int}
    (isPart : number.integerPart? = some part) : Whole part.natAbs := by
  cases number with
  | finite negative significand exponent =>
      have bounded : significand < significandBound := fits
      have magnitude : Whole (wholePart significand exponent) := by
        obtain ⟨shift, rfl | rfl⟩ := exponent.eq_nat_or_neg
        · exact ⟨significand, shift, bounded, wholePart_natCast significand shift⟩
        · rw [wholePart_neg]
          exact whole_of_le ((Nat.div_le_self _ _).trans bounded.le)
      rw [integerPart?_finite] at isPart
      obtain rfl := Option.some.inj isPart
      cases negative <;> simpa using magnitude
  | infinite negative => cases isPart
  | undefined => cases isPart

theorem roundQuotient_of_dvd {numerator denominator : Nat} (positive : 0 < denominator)
    (divides : denominator ∣ numerator) :
    roundQuotient numerator denominator = numerator / denominator := by
  have noRest : numerator % denominator = 0 := Nat.mod_eq_zero_of_dvd divides
  rw [roundQuotient, noRest, if_pos (by omega)]

section WholeNumber

variable {number : Nat}

/-- The exponent at which the first bit of a whole number is the 53rd. -/
theorem exponentOf_one (positive : 0 < number) :
    exponentOf number 1 = (number.log2 : Int) - 52 := by
  have reached : ¬belowPower number 1 (number.log2 : Int) = true := by
    have least : 2 ^ number.log2 ≤ number := Nat.log2_self_le positive.ne'
    rw [belowPower_iff, not_lt, Nat.cast_one, one_mul, zpow_natCast]
    exact_mod_cast least
  have noPower : Nat.log2 1 = 0 := by decide
  have guess : (number.log2 : Int) - (0 : Nat) - 53 + 53 = number.log2 := by omega
  rw [exponentOf, noPower, guess, if_neg reached, leastExponent]
  omega

theorem ofNat_of_rounded (positive : 0 < number) {significand : Nat} {exponent : Int}
    (isExponent : (number.log2 : Int) - 52 = exponent)
    (isSignificand : roundScaled number 1 exponent = significand)
    (below : significand < significandBound) (inRange : exponent ≤ greatestExponent) :
    ofNat number = .finite false significand exponent := by
  rw [ofNat, ofRatio, if_neg positive.ne', exponentOf_one positive, isExponent]
  dsimp only
  rw [isSignificand, if_neg below.ne]
  exact if_neg (not_lt.mpr inRange)

/-- A number of at most 53 bits is shifted up. -/
theorem ofNat_of_few_bits (positive : 0 < number) {shift : Nat} (few : number.log2 + shift = 52) :
    ofNat number = .finite false (number * 2 ^ shift) (-(shift : Int)) := by
  have below : number * 2 ^ shift < significandBound := by
    have bound : number < 2 ^ (number.log2 + 1) := Nat.lt_log2_self
    calc number * 2 ^ shift < 2 ^ (number.log2 + 1) * 2 ^ shift :=
          Nat.mul_lt_mul_of_pos_right bound (by positivity)
      _ = 2 ^ (number.log2 + shift + 1) := by rw [← Nat.pow_add, Nat.add_right_comm]
      _ = significandBound := by rw [few]; rfl
  have rounded : roundScaled number 1 (-(shift : Int)) = number * 2 ^ shift := by
    rcases Nat.eq_zero_or_pos shift with rfl | someShift
    · exact (roundQuotient_of_dvd (by decide) (one_dvd number)).trans (by simp)
    · rw [roundScaled, if_neg (by omega), roundQuotient_of_dvd (by decide) (one_dvd _), neg_neg,
        Int.toNat_natCast, Nat.shiftLeft_eq, Nat.div_one]
  have inRange : (-(shift : Int)) ≤ greatestExponent := by
    rw [greatestExponent]
    omega
  exact ofNat_of_rounded positive (by omega) rounded below inRange

/-- A number of at least 53 bits loses zeros at its end. -/
theorem ofNat_of_many_bits (positive : 0 < number) {shift : Nat}
    (many : number.log2 = 52 + shift) (size : shift ≤ 971) (zeros : 2 ^ shift ∣ number) :
    ofNat number = .finite false (number / 2 ^ shift) shift := by
  have below : number / 2 ^ shift < significandBound := by
    have bound : number < 2 ^ (number.log2 + 1) := Nat.lt_log2_self
    rw [Nat.div_lt_iff_lt_mul (by positivity)]
    calc number < 2 ^ (number.log2 + 1) := bound
      _ = significandBound * 2 ^ shift := by
          rw [many, Nat.add_right_comm, Nat.pow_add]
          rfl
  have rounded : roundScaled number 1 shift = number / 2 ^ shift := by
    have step : 1 <<< shift = 2 ^ shift := Nat.one_shiftLeft shift
    rw [roundScaled, if_pos (Int.natCast_nonneg shift), Int.toNat_natCast, step,
      roundQuotient_of_dvd (by positivity) zeros]
  have inRange : (shift : Int) ≤ greatestExponent := by
    rw [greatestExponent]
    omega
  exact ofNat_of_rounded positive (by omega) rounded below inRange

theorem pow_dvd_of_whole (whole : Whole number) (positive : 0 < number) {shift : Nat}
    (many : number.log2 = 52 + shift) : 2 ^ shift ∣ number := by
  obtain ⟨significand, zeros, bounded, rfl⟩ := whole
  have least : 2 ^ (52 + shift) ≤ significand * 2 ^ zeros := many ▸ Nat.log2_self_le positive.ne'
  have below : significand * 2 ^ zeros < 2 ^ (53 + zeros) := by
    rw [Nat.pow_add]
    exact Nat.mul_lt_mul_of_pos_right bounded (by positivity)
  have enough : 52 + shift < 53 + zeros :=
    (Nat.pow_lt_pow_iff_right one_lt_two).mp (least.trans_lt below)
  exact (Nat.pow_dvd_pow 2 (by omega)).mul_left significand

/-- A whole number that is held exactly is its own integer part. -/
theorem integerPart?_ofNat (whole : Whole number) (size : number.log2 < 1024) :
    (ofNat number).integerPart? = some (number : Int) := by
  rcases Nat.eq_zero_or_pos number with rfl | positive
  · rfl
  rcases Nat.le_total number.log2 52 with few | many
  · obtain ⟨shift, isShift⟩ := Nat.exists_eq_add_of_le few
    rw [ofNat_of_few_bits positive isShift.symm, integerPart?_finite, wholePart_neg,
      Nat.mul_div_cancel _ (by positivity)]
    rfl
  · obtain ⟨shift, isShift⟩ := Nat.exists_eq_add_of_le many
    have zeros := pow_dvd_of_whole whole positive isShift
    rw [ofNat_of_many_bits positive isShift (by omega) zeros, integerPart?_finite,
      wholePart_natCast, Nat.div_mul_cancel zeros]
    rfl

end WholeNumber

theorem isDigit_spec {c : Char} (digit : isDigit c = true) :
    c.toLower = c ∧ c ≠ '-' ∧ c ≠ '+' ∧ c ≠ 'i' ∧ c ≠ 'n' := by
  have others : ∀ other : Char, isDigit other = false → c ≠ other := by
    rintro other notDigit rfl
    rw [digit] at notDigit
    cases notDigit
  have notUpper : ¬(c.val ≥ 'A'.val ∧ c.val ≤ 'Z'.val) := by
    rintro ⟨upper, _⟩
    simp only [isDigit, Bool.and_eq_true, decide_eq_true_eq, Char.le_def] at digit
    exact absurd (UInt32.le_trans upper digit.2) (by decide)
  exact ⟨dif_neg notUpper, others _ (by decide), others _ (by decide), others _ (by decide),
    others _ (by decide)⟩

section Digits

variable {number : Nat}

theorem ofDecimal_whole (size : number < UInt64.size) :
    ofDecimal false number 0 = ofNat number := by
  have short : (digitsOf number).length ≤ 20 :=
    (Nat.length_toDigits_le_iff (by decide) (by decide)).mpr (size.trans (by decide))
  have power : tenTo (0 : Int).toNat = 1 := rfl
  rw [ofDecimal]
  split
  next isZero =>
    rw [isZero]
    rfl
  next =>
    dsimp only
    rw [if_neg (by omega), if_neg (by omega), if_pos le_rfl, power, Nat.mul_one, ofNat]

theorem readUnsigned?_digitsOf (size : number < UInt64.size) :
    readUnsigned? false (digitsOf number) = some (ofNat number) := by
  have digits : ∀ c ∈ digitsOf number, isDigit c = true :=
    fun _ => isDigit_of_mem_digitsOf
  have present : (digitsOf number).isEmpty = false :=
    List.isEmpty_eq_false_iff.mpr Nat.toDigits_ne_nil
  have all : (digitsOf number).takeWhile isDigit = digitsOf number :=
    List.takeWhile_eq_self_iff.mpr digits
  have rest : (digitsOf number).dropWhile isDigit = [] := List.dropWhile_eq_nil_iff.mpr digits
  rw [readUnsigned?, all, rest]
  dsimp only
  rw [present, List.append_nil, decimalValue_digitsOf]
  exact congrArg some (ofDecimal_whole size)

/-- The decimal digits of a number of 64 bits are read as the number nearest to it. -/
theorem read?_toString (size : number < UInt64.size) :
    read? (toString number) = some (ofNat number) := by
  have isText : (toString number).toList = digitsOf number := Nat.toList_repr
  obtain ⟨first, others, chars⟩ : ∃ first others, digitsOf number = first :: others :=
    List.exists_cons_of_ne_nil Nat.toDigits_ne_nil
  obtain ⟨lower, notMinus, notPlus, notI, notN⟩ := isDigit_spec (c := first)
    (isDigit_of_mem_digitsOf (by rw [chars]; exact List.mem_cons_self))
  have notWord (word : String) (head : word.toList.head? ≠ some first) :
      String.ofList ((first :: others).map Char.toLower) ≠ word := by
    rintro rfl
    rw [String.toList_ofList, List.map_cons, lower] at head
    exact head rfl
  have notInf := notWord "inf" (by simpa using notI.symm)
  have notInfinity := notWord "infinity" (by simpa using notI.symm)
  have notNan := notWord "nan" (by simpa using notN.symm)
  rw [read?, isText, chars]
  split
  next negative unsigned isSplit =>
    have signless : (negative, unsigned) = (false, first :: others) := by
      rw [← isSplit]
      split
      · simp_all
      · simp_all
      · rfl
    cases signless
    dsimp only
    rw [decide_eq_false notInf, decide_eq_false notInfinity, Bool.or_self,
      if_neg Bool.false_ne_true, if_neg notNan]
    exact chars ▸ readUnsigned?_digitsOf size

end Digits

/-- The greatest number of 64 bits has too many bits, and is read as the next power of two. -/
theorem integerPart?_ofNat_greatest : (ofNat (2 ^ 64 - 1)).integerPart? = some (2 ^ 64) := by
  decide

end Binary64

end ConnectorConsole
