import MainsCharts.Proofs.Numeral.Storing

/-!
# Arithmetic of doubles

Sums, differences, products and quotients of finite doubles are the exact results, rounded to
doubles (`stores_add`, `stores_sub`, `stores_mul`, `stores_div`).  For a sum or a difference both
mantissas are brought to the lower exponent, which loses nothing; a product of mantissas is exact;
and for a quotient the dividend gets enough digits behind it that the whole part of the fraction
has more than a double can keep, and the rest locates the value behind it.
-/

namespace MainsCharts.Numeral

set_option autoImplicit false

open Float.Model UnpackedFloat

/-! ## Raising mantissas -/

theorem log2_shiftLeft {mantissa : Nat} (nonzero : mantissa ≠ 0) (count : Nat) :
    (mantissa <<< count).log2 = mantissa.log2 + count := by
  induction count with
  | zero => rfl
  | succ count ih =>
      have shifted : mantissa <<< count ≠ 0 := by
        rw [Nat.shiftLeft_eq]
        exact Nat.mul_ne_zero nonzero (Nat.two_pow_pos count).ne'
      rw [Nat.shiftLeft_succ, Nat.log2_two_mul shifted, ih, Nat.add_assoc]

theorem magnitude_decreaseExponent (mantissa : Nat) (exponent target : Int) :
    magnitude (decreaseExponent mantissa exponent target).1
      (decreaseExponent mantissa exponent target).2 = magnitude mantissa exponent := by
  rw [decreaseExponent, magnitude, magnitude, Nat.shiftLeft_eq, Nat.cast_mul, Nat.cast_pow,
    mul_assoc, Nat.cast_ofNat, ← zpow_natCast, ← zpow_add₀ (by norm_num), add_sub_cancel]

theorem locates_exact (mantissa : Nat) (exponent : Int) :
    Locates (.ofMantissaAndAccuracy mantissa .exact)
      (magnitude mantissa exponent / (2 : ℚ) ^ exponent) :=
  mul_div_cancel_right₀ _ (twoPow_pos exponent).ne'

theorem stores_round (sign : Sign) {mantissa : Nat} (positive : 0 < mantissa) (exponent : Int) :
    Stores (signed sign (magnitude mantissa exponent))
      (.ofModel (Float.Model.pack (round Format.binary64 sign mantissa exponent))) := by
  simp only [UnpackedFloat.round, targetExponent_eq]
  rw [← magnitude_decreaseExponent mantissa exponent (placeOf mantissa exponent)]
  refine stores_roundWithAccuracy sign ?_ (locates_exact _ _)
  dsimp only [decreaseExponent, placeOf]
  rw [log2_shiftLeft positive.ne']
  omega

theorem stores_normalize (mantissa exponent : Int) (zeroSign : Sign) :
    Stores (mantissa * (2 : ℚ) ^ exponent)
      (.ofModel (Float.Model.pack (normalize Format.binary64 mantissa exponent zeroSign))) := by
  rw [UnpackedFloat.normalize]
  rcases lt_trichotomy mantissa 0 with negative | rfl | positive
  · rw [compare_lt_iff_lt.mpr negative]
    have stores := stores_round .negative (show 0 < (-mantissa).toNat by omega) exponent
    have size : (((-mantissa).toNat : Nat) : ℚ) = -mantissa := by
      rw [← Int.cast_natCast, Int.toNat_of_nonneg (by omega), Int.cast_neg]
    rwa [signed, magnitude, size, neg_mul, neg_neg] at stores
  · rw [Int.cast_zero, zero_mul]
    exact stores_zero zeroSign
  · rw [compare_gt_iff_gt.mpr positive]
    have stores := stores_round .positive (show 0 < mantissa.toNat by omega) exponent
    have size : ((mantissa.toNat : Nat) : ℚ) = mantissa := by
      rw [← Int.cast_natCast, Int.toNat_of_nonneg positive.le]
    rwa [signed, magnitude, size] at stores

/-! ## Operations -/

theorem stores_finite (sign : Sign) {mantissa : Nat} {exponent : Int} (positive : 0 < mantissa)
    (canonical : IsCanonical mantissa exponent) :
    Stores (signed sign (magnitude mantissa exponent))
      (.ofModel (Float.Model.pack (.finite sign mantissa exponent positive))) :=
  ⟨_, (isRounded_magnitude canonical).signed sign, extendedValue?_pack sign positive canonical⟩

theorem signed_neg (sign : Sign) (number : ℚ) : signed (-sign) number = -signed sign number := by
  cases sign with
  | positive => rfl
  | negative => exact (neg_neg number).symm

/-- A mantissa with its sign, brought to a lower exponent. -/
theorem apply_decreaseExponent (sign : Sign) (mantissa : Nat) {exponent target : Int}
    (lower : target ≤ exponent) :
    ((sign.apply (decreaseExponent mantissa exponent target).1 : Int) : ℚ) * (2 : ℚ) ^ target =
      signed sign (magnitude mantissa exponent) := by
  have reached : (decreaseExponent mantissa exponent target).2 = target := by
    rw [decreaseExponent]
    omega
  rw [← magnitude_decreaseExponent mantissa exponent target, reached, magnitude]
  cases sign with
  | positive => rfl
  | negative =>
      rw [Sign.apply, signed, Int.cast_neg, neg_mul]
      rfl

variable {first second : Float} {number other : ℚ}

/-- **The sum of two doubles** stores the sum of their values. -/
theorem stores_add (isValue : exactValue? first = some number)
    (isOther : exactValue? second = some other) : Stores (number + other) (first + second) := by
  have sum : first + second = .ofModel (Float.Model.pack
    (UnpackedFloat.add Format.binary64 first.toModel.unpack second.toModel.unpack)) := rfl
  rw [sum]
  rcases finite_cases isValue with
    ⟨sign, kind, rfl⟩ | ⟨sign, mantissa, exponent, positive, kind, rfl⟩
  · rcases finite_cases isOther with
      ⟨signOther, kindOther, rfl⟩ | ⟨signOther, mantissaOther, exponentOther, _, kindOther, rfl⟩
    · rw [kind, kindOther, add_zero]
      cases sign <;> cases signOther <;> exact stores_zero _
    · rw [kind, kindOther, zero_add]
      exact stores_finite signOther _ (isCanonical_of_unpack kindOther)
  · rcases finite_cases isOther with
      ⟨signOther, kindOther, rfl⟩ | ⟨signOther, mantissaOther, exponentOther, _, kindOther, rfl⟩
    · rw [kind, kindOther, add_zero]
      exact stores_finite sign _ (isCanonical_of_unpack kind)
    · rw [kind, kindOther,
        ← apply_decreaseExponent sign mantissa (min_le_left exponent exponentOther),
        ← apply_decreaseExponent signOther mantissaOther (min_le_right exponent exponentOther),
        ← add_mul, ← Int.cast_add]
      exact stores_normalize _ _ _

/-- **The difference of two doubles** stores the difference of their values. -/
theorem stores_sub (isValue : exactValue? first = some number)
    (isOther : exactValue? second = some other) : Stores (number - other) (first - second) := by
  have difference : first - second = .ofModel (Float.Model.pack
    (UnpackedFloat.sub Format.binary64 first.toModel.unpack second.toModel.unpack)) := rfl
  rw [difference]
  rcases finite_cases isValue with
    ⟨sign, kind, rfl⟩ | ⟨sign, mantissa, exponent, positive, kind, rfl⟩
  · rcases finite_cases isOther with
      ⟨signOther, kindOther, rfl⟩ | ⟨signOther, mantissaOther, exponentOther, _, kindOther, rfl⟩
    · rw [kind, kindOther, sub_zero]
      cases sign <;> cases signOther <;> exact stores_zero _
    · rw [kind, kindOther, zero_sub, ← signed_neg]
      exact stores_finite (-signOther) _ (isCanonical_of_unpack kindOther)
  · rcases finite_cases isOther with
      ⟨signOther, kindOther, rfl⟩ | ⟨signOther, mantissaOther, exponentOther, _, kindOther, rfl⟩
    · rw [kind, kindOther, sub_zero]
      exact stores_finite sign _ (isCanonical_of_unpack kind)
    · rw [kind, kindOther,
        ← apply_decreaseExponent sign mantissa (min_le_left exponent exponentOther),
        ← apply_decreaseExponent signOther mantissaOther (min_le_right exponent exponentOther),
        ← sub_mul, ← Int.cast_sub]
      exact stores_normalize _ _ _

theorem signed_div (sign signOther : Sign) (number other : ℚ) :
    signed (sign / signOther) (number / other) = signed sign number / signed signOther other := by
  cases sign <;> cases signOther
  · exact (neg_div_neg_eq number other).symm
  · exact (neg_div other number).symm
  · exact (div_neg number).symm
  · rfl

/-- The whole part of a fraction and the accuracy of what is left locate it. -/
theorem locates_accuracyOfFraction (numerator : Nat) {denominator : Nat}
    (positive : 0 < denominator) :
    Locates (.ofMantissaAndAccuracy (numerator / denominator)
      (accuracyOfFraction (numerator % denominator) denominator)) (numerator / denominator) := by
  have denominatorPos : (0 : ℚ) < denominator := Nat.cast_pos.mpr positive
  rw [div_eq_whole_add numerator positive]
  generalize numerator / denominator = whole
  have bounded : numerator % denominator < denominator := Nat.mod_lt numerator positive
  generalize numerator % denominator = rest at *
  rw [accuracyOfFraction]
  by_cases exact : rest = 0
  · rw [if_pos exact, exact, Nat.cast_zero, zero_div, add_zero]
    rfl
  · rw [if_neg exact]
    have some : (0 : ℚ) < rest / denominator :=
      div_pos (Nat.cast_pos.mpr (Nat.pos_of_ne_zero exact)) denominatorPos
    have less : (rest : ℚ) / denominator < 1 :=
      (div_lt_one denominatorPos).mpr (Nat.cast_lt.mpr bounded)
    rcases Nat.lt_trichotomy (2 * rest) denominator with below | middle | above
    · have half : (rest : ℚ) / denominator < 1 / 2 := by
        have cast : (2 : ℚ) * rest < denominator := by exact_mod_cast below
        rw [div_lt_iff₀ denominatorPos]
        linarith
      rw [Nat.compare_eq_lt.mpr below]
      exact ⟨lt_add_of_pos_right _ some, (add_lt_add_iff_left _).mpr half⟩
    · have half : (rest : ℚ) / denominator = 1 / 2 := by
        have cast : (2 : ℚ) * rest = denominator := by exact_mod_cast middle
        rw [div_eq_iff denominatorPos.ne']
        linarith
      rw [Nat.compare_eq_eq.mpr middle, half]
      rfl
    · have half : 1 / 2 < (rest : ℚ) / denominator := by
        have cast : (denominator : ℚ) < 2 * rest := by exact_mod_cast above
        rw [lt_div_iff₀ denominatorPos]
        linarith
      rw [Nat.compare_eq_gt.mpr above]
      exact ⟨(add_lt_add_iff_left _).mpr half, (add_lt_add_iff_left _).mpr less⟩

/-- A quotient of mantissas has enough digits to be rounded. -/
theorem le_log2_div {numerator denominator : Nat} (positive : 0 < denominator) {digits : Nat}
    (enough : denominator.log2 + digits < numerator.log2) :
    digits ≤ (numerator / denominator).log2 := by
  have nonzero : numerator ≠ 0 := by
    rintro rfl
    rw [Nat.log2_zero] at enough
    exact Nat.not_lt_zero _ enough
  have least : 2 ^ digits ≤ numerator / denominator := by
    rw [Nat.le_div_iff_mul_le positive]
    calc 2 ^ digits * denominator ≤ 2 ^ digits * 2 ^ (denominator.log2 + 1) :=
          Nat.mul_le_mul_left _ Nat.lt_log2_self.le
      _ = 2 ^ (denominator.log2 + 1 + digits) := by rw [← Nat.pow_add, Nat.add_comm]
      _ ≤ 2 ^ numerator.log2 := Nat.pow_le_pow_right (by decide) (by omega)
      _ ≤ numerator := Nat.log2_self_le nonzero
  have quotient : numerator / denominator ≠ 0 := (Nat.two_pow_pos digits).trans_le least |>.ne'
  exact (Nat.le_log2 quotient).mpr least

/-- A quotient of mantissas, rounded and stored. -/
theorem stores_divCore (sign : Sign) {mantissa divisor : Nat} (exponent lowered : Int)
    (positive : 0 < mantissa) (positiveDivisor : 0 < divisor)
    {quotient : Nat × Int × Accuracy}
    (isQuotient : divCore Format.binary64 mantissa exponent divisor lowered = quotient) :
    Stores (signed sign (magnitude mantissa exponent / magnitude divisor lowered))
      (.ofModel (Float.Model.pack (roundWithAccuracy Format.binary64 sign quotient.1 quotient.2.1
        quotient.2.2))) := by
  rw [divCore] at isQuotient
  generalize isTarget : min (exponent - lowered) (Format.binary64.targetExponent
    (totalExponent mantissa exponent - totalExponent divisor lowered)) = target at isQuotient
  generalize isCount : (exponent - lowered - target).toNat = count at isQuotient
  have atMost : target ≤ exponent - lowered := by omega
  subst isQuotient
  refine stores_roundWithAccuracy sign ?_ ?_
  · have digits : ((Format.binary64.mantissaBits : Nat) : Int) = 53 := rfl
    have least : Format.binary64.minExponent = -1074 := rfl
    rw [Format.targetExponent, totalExponent, totalExponent, digits, least] at isTarget
    change target ≤ placeOf (mantissa <<< count / divisor) target
    unfold placeOf
    by_cases lowest : target ≤ -1074
    · exact le_max_of_le_right lowest
    · refine le_max_of_le_left ?_
      have enough : 52 ≤ (mantissa <<< count / divisor).log2 := by
        refine le_log2_div positiveDivisor ?_
        rw [log2_shiftLeft positive.ne']
        omega
      omega
  · have raised : exponent - lowered - target = count := by omega
    have value : magnitude mantissa exponent / magnitude divisor lowered / (2 : ℚ) ^ target =
        (mantissa <<< count : Nat) / divisor := by
      rw [magnitude, magnitude, mul_div_mul_comm, ← zpow_sub₀ (by norm_num), mul_div_assoc,
        ← zpow_sub₀ (by norm_num), raised, zpow_natCast, Nat.shiftLeft_eq, Nat.cast_mul,
        Nat.cast_pow, Nat.cast_ofNat, div_mul_eq_mul_div]
    rw [value]
    exact locates_accuracyOfFraction _ positiveDivisor

/-- **The quotient of two doubles** stores the quotient of their values. -/
theorem stores_div (isValue : exactValue? first = some number)
    (isOther : exactValue? second = some other) (nonzero : other ≠ 0) :
    Stores (number / other) (first / second) := by
  have quotient : first / second = .ofModel (Float.Model.pack
    (UnpackedFloat.div Format.binary64 first.toModel.unpack second.toModel.unpack)) := rfl
  rw [quotient]
  rcases finite_cases isOther with
    ⟨_, _, rfl⟩ | ⟨signOther, mantissaOther, exponentOther, positiveOther, kindOther, rfl⟩
  · exact absurd rfl nonzero
  rcases finite_cases isValue with
    ⟨sign, kind, rfl⟩ | ⟨sign, mantissa, exponent, positive, kind, rfl⟩
  · rw [kind, kindOther, zero_div]
    exact stores_zero _
  · rw [kind, kindOther, ← signed_div]
    delta UnpackedFloat.div
    dsimp only
    exact stores_divCore _ exponent exponentOther positive positiveOther rfl

theorem signed_mul (sign signOther : Sign) (number other : ℚ) :
    signed (sign * signOther) (number * other) = signed sign number * signed signOther other := by
  cases sign <;> cases signOther
  · exact (neg_mul_neg number other).symm
  · exact (neg_mul number other).symm
  · exact (mul_neg number other).symm
  · rfl

theorem magnitude_mul (mantissa other : Nat) (exponent further : Int) :
    magnitude (mantissa * other) (exponent + further) =
      magnitude mantissa exponent * magnitude other further := by
  rw [magnitude, magnitude, magnitude, Nat.cast_mul, zpow_add₀ (by norm_num), mul_mul_mul_comm]

/-- A product of mantissas has no digits to spare only if both factors have the least exponent. -/
theorem le_placeOf_mul {mantissa other : Nat} {exponent further : Int} (positive : 0 < mantissa)
    (positiveOther : 0 < other) (canonical : IsCanonical mantissa exponent)
    (canonicalOther : IsCanonical other further) :
    exponent + further ≤ placeOf (mantissa * other) (exponent + further) := by
  unfold placeOf
  by_cases leading : leadingBit ≤ mantissa * other
  · have digits : 52 ≤ (mantissa * other).log2 :=
      (Nat.le_log2 (Nat.mul_pos positive positiveOther).ne').mpr leading
    omega
  · have lowest : exponent = -1074 := canonical.leading.resolve_left fun reached =>
      leading (reached.trans (Nat.le_mul_of_pos_right mantissa positiveOther))
    have lowestOther : further = -1074 := canonicalOther.leading.resolve_left fun reached =>
      leading (reached.trans (Nat.le_mul_of_pos_left other positive))
    omega

/-- **The product of two doubles** stores the product of their values. -/
theorem stores_mul (isValue : exactValue? first = some number)
    (isOther : exactValue? second = some other) : Stores (number * other) (first * second) := by
  have product : first * second = .ofModel (Float.Model.pack
    (UnpackedFloat.mul Format.binary64 first.toModel.unpack second.toModel.unpack)) := rfl
  rw [product]
  rcases finite_cases isValue with
    ⟨sign, kind, rfl⟩ | ⟨sign, mantissa, exponent, positive, kind, rfl⟩
  · rcases finite_cases isOther with
      ⟨signOther, kindOther, rfl⟩ | ⟨signOther, _, _, _, kindOther, rfl⟩
    · rw [kind, kindOther, zero_mul]
      exact stores_zero _
    · rw [kind, kindOther, zero_mul]
      exact stores_zero _
  · rcases finite_cases isOther with
      ⟨signOther, kindOther, rfl⟩ |
        ⟨signOther, mantissaOther, exponentOther, positiveOther, kindOther, rfl⟩
    · rw [kind, kindOther, mul_zero]
      exact stores_zero _
    · rw [kind, kindOther, ← signed_mul, ← magnitude_mul]
      exact stores_roundWithAccuracy _ (le_placeOf_mul positive positiveOther
        (isCanonical_of_unpack kind) (isCanonical_of_unpack kindOther)) (locates_exact _ _)

end MainsCharts.Numeral
