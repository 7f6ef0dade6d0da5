import MainsCharts.Proofs.Numeral.Nearest

/-!
# Numbers rounded to doubles

The last digit of a double stands at a place that follows from its magnitude: fifty-three
digits in base two, and none below the place `-1074` (`IsPlace`).  A number is rounded to the
nearest multiple of the unit of that place, and of two to the even one (`IsRounded`).

Rounding keeps the order (`IsRounded.mono`).  Numbers with the same last place are ordered by
their units.  Between different places lies a power of two, which neither of the two numbers
can be rounded across.  And a number that a double stands for is rounded to itself
(`isRounded_of_exactValue?`), so no number is rounded across a double.
-/

namespace MainsCharts.Numeral

set_option autoImplicit false

open Float.Model

theorem twoPow_pos (exponent : Int) : 0 < (2 : ℚ) ^ exponent :=
  zpow_pos (by norm_num) exponent

/-- Twice the leading bit is the leading bit of the next place. -/
theorem double_leadingBit (exponent : Int) :
    2 * leadingBit * (2 : ℚ) ^ exponent = leadingBit * (2 : ℚ) ^ (exponent + 1) := by
  rw [zpow_add_one₀ (by norm_num)]
  ring

theorem leadingBit_le_of_le {place other : Int} (ordered : place ≤ other) :
    leadingBit * (2 : ℚ) ^ place ≤ leadingBit * (2 : ℚ) ^ other :=
  mul_le_mul_of_nonneg_left (zpow_le_zpow_right₀ (by norm_num) ordered) (Nat.cast_nonneg _)

theorem isNearest_self (units : Int) : IsNearest units units :=
  isNearest_of_lt (by norm_num)

/-! ## Places -/

/-- Whether the last digit of a number, rounded to a double, stands at a place.  The leading bit
is fifty-two places above it, unless the number is too small for that. -/
structure IsPlace (number : ℚ) (place : Int) : Prop where
  least : -1074 ≤ place
  leading : leadingBit * (2 : ℚ) ^ place ≤ |number| ∨ place = -1074
  bounded : |number| < 2 * leadingBit * (2 : ℚ) ^ place

namespace IsPlace

variable {number other : ℚ} {place further : Int}

protected theorem neg (isPlace : IsPlace number place) : IsPlace (-number) place := by
  constructor
  · exact isPlace.least
  · rw [abs_neg]
    exact isPlace.leading
  · rw [abs_neg]
    exact isPlace.bounded

/-- A number above the least place has its leading bit set. -/
theorem leading_le_of_lt (isPlace : IsPlace number place) (above : -1074 < place) :
    leadingBit * (2 : ℚ) ^ place ≤ |number| :=
  isPlace.leading.resolve_right above.ne'

/-- A number with few enough digits in front of a place has its last digit there or below. -/
theorem le_of_abs_lt (isPlace : IsPlace number place) (least : -1074 ≤ further)
    (small : |number| < 2 * leadingBit * (2 : ℚ) ^ further) : place ≤ further := by
  by_contra greater
  have above : further < place := not_le.mp greater
  have leading := isPlace.leading_le_of_lt (least.trans_lt above)
  have less : leadingBit * (2 : ℚ) ^ place < leadingBit * (2 : ℚ) ^ place :=
    calc leadingBit * (2 : ℚ) ^ place ≤ |number| := leading
      _ < 2 * leadingBit * (2 : ℚ) ^ further := small
      _ = leadingBit * (2 : ℚ) ^ (further + 1) := double_leadingBit further
      _ ≤ leadingBit * (2 : ℚ) ^ place := leadingBit_le_of_le above
  exact lt_irrefl _ less

/-- The greater of two magnitudes has no lower place. -/
theorem mono (isPlace : IsPlace number place) (isOther : IsPlace other further)
    (ordered : |number| ≤ |other|) : place ≤ further :=
  isPlace.le_of_abs_lt isOther.least (ordered.trans_lt isOther.bounded)

/-- No number is rounded to more than fifty-three digits, except to a power of two. -/
theorem units_le (isPlace : IsPlace number place) {units : Int}
    (nearest : IsNearest (number / (2 : ℚ) ^ place) units) : units ≤ (2 * leadingBit : Nat) := by
  refine nearest.mono (isNearest_self _) ?_
  rw [div_le_iff₀ (twoPow_pos place)]
  push_cast
  exact (le_abs_self number).trans isPlace.bounded.le

/-- Rounding leaves the leading bit set. -/
theorem le_units (isPlace : IsPlace number place) (atLeast : 0 ≤ number) {units : Int}
    (nearest : IsNearest (number / (2 : ℚ) ^ place) units) :
    (leadingBit : Nat) ≤ units ∨ place = -1074 := by
  refine isPlace.leading.imp_left fun leading => ?_
  rw [abs_of_nonneg atLeast] at leading
  refine (isNearest_self _).mono nearest ?_
  rw [le_div_iff₀ (twoPow_pos place)]
  exact leading

end IsPlace

/-! ## Rounding -/

/-- Whether a number is rounded to another: to the nearest multiple of the unit of its last
place. -/
def IsRounded (number result : ℚ) : Prop :=
  ∃ place units : Int, IsPlace number place ∧ IsNearest (number / (2 : ℚ) ^ place) units ∧
    result = units * (2 : ℚ) ^ place

namespace IsRounded

variable {number other result further : ℚ}

protected theorem neg (rounded : IsRounded number result) : IsRounded (-number) (-result) := by
  obtain ⟨place, units, isPlace, nearest, rfl⟩ := rounded
  refine ⟨place, -units, isPlace.neg, ?_, ?_⟩
  · rw [neg_div]
    exact nearest.neg
  · push_cast
    ring

protected theorem signed (sign : UnpackedFloat.Sign) (rounded : IsRounded number result) :
    IsRounded (signed sign number) (signed sign result) := by
  cases sign with
  | positive => exact rounded
  | negative => exact rounded.neg

theorem nonneg (rounded : IsRounded number result) (atLeast : 0 ≤ number) : 0 ≤ result := by
  obtain ⟨place, units, _, nearest, rfl⟩ := rounded
  have zero : IsNearest (0 : ℚ) 0 := by exact_mod_cast isNearest_self 0
  have units_nonneg : 0 ≤ units :=
    zero.mono nearest (div_nonneg atLeast (twoPow_pos place).le)
  exact mul_nonneg (Int.cast_nonneg units_nonneg) (twoPow_pos place).le

/-- Magnitudes keep their order.  When they have different last places, the leading bit of the
greater one lies between them. -/
theorem mono_of_nonneg (rounded : IsRounded number result) (roundedOther : IsRounded other further)
    (atLeast : 0 ≤ number) (ordered : number ≤ other) : result ≤ further := by
  obtain ⟨place, units, isPlace, nearest, rfl⟩ := rounded
  obtain ⟨next, count, isNext, nearestOther, rfl⟩ := roundedOther
  have magnitudes : |number| ≤ |other| := by
    rwa [abs_of_nonneg atLeast, abs_of_nonneg (atLeast.trans ordered)]
  rcases (isPlace.mono isNext magnitudes).eq_or_lt with rfl | below
  · have monotone : units ≤ count :=
      nearest.mono nearestOther (div_le_div_of_nonneg_right ordered (twoPow_pos place).le)
    exact mul_le_mul_of_nonneg_right (Int.cast_le.mpr monotone) (twoPow_pos place).le
  · have most : (units : ℚ) ≤ 2 * leadingBit := by exact_mod_cast isPlace.units_le nearest
    have least : (leadingBit : ℚ) ≤ count := by
      rcases isNext.le_units (atLeast.trans ordered) nearestOther with leading | lowest
      · exact_mod_cast leading
      · exact absurd (isPlace.least.trans_lt below) (not_lt.mpr lowest.le)
    calc (units : ℚ) * (2 : ℚ) ^ place ≤ 2 * leadingBit * (2 : ℚ) ^ place :=
          mul_le_mul_of_nonneg_right most (twoPow_pos place).le
      _ = leadingBit * (2 : ℚ) ^ (place + 1) := double_leadingBit place
      _ ≤ leadingBit * (2 : ℚ) ^ next := leadingBit_le_of_le below
      _ ≤ count * (2 : ℚ) ^ next := mul_le_mul_of_nonneg_right least (twoPow_pos next).le

/-- **Rounding keeps the order.** -/
theorem mono (rounded : IsRounded number result) (roundedOther : IsRounded other further)
    (ordered : number ≤ other) : result ≤ further := by
  rcases le_total 0 number with atLeast | atMost
  · exact rounded.mono_of_nonneg roundedOther atLeast ordered
  · rcases le_total 0 other with otherAtLeast | otherAtMost
    · have below := rounded.neg.nonneg (neg_nonneg.mpr atMost)
      exact (neg_nonneg.mp below).trans (roundedOther.nonneg otherAtLeast)
    · have mirrored := roundedOther.neg.mono_of_nonneg rounded.neg (neg_nonneg.mpr otherAtMost)
        (neg_le_neg ordered)
      exact neg_le_neg_iff.mp mirrored

end IsRounded

theorem isRounded_magnitude {mantissa : Nat} {exponent : Int}
    (canonical : IsCanonical mantissa exponent) :
    IsRounded (magnitude mantissa exponent) (magnitude mantissa exponent) := by
  have size : |magnitude mantissa exponent| = mantissa * (2 : ℚ) ^ exponent :=
    abs_of_nonneg (mul_nonneg (Nat.cast_nonneg _) (twoPow_pos exponent).le)
  refine ⟨exponent, mantissa, ⟨canonical.least, ?_, ?_⟩, ?_, rfl⟩
  · rw [size]
    exact canonical.leading.imp_left fun leading =>
      mul_le_mul_of_nonneg_right (Nat.cast_le.mpr leading) (twoPow_pos exponent).le
  · have bounded : (mantissa : ℚ) < 2 * leadingBit := by exact_mod_cast canonical.bounded
    rw [size]
    exact mul_lt_mul_of_pos_right bounded (twoPow_pos exponent)
  · rw [magnitude, mul_div_cancel_right₀ _ (twoPow_pos exponent).ne']
    exact isNearest_self mantissa

theorem isRounded_zero : IsRounded 0 0 := by
  refine ⟨-1074, 0, ⟨le_rfl, .inr rfl, ?_⟩, ?_, by norm_num⟩
  · rw [abs_zero]
    exact mul_pos (by norm_num [leadingBit]) (twoPow_pos _)
  · rw [zero_div]
    exact_mod_cast isNearest_self 0

/-- **What a double stands for** is rounded to itself. -/
theorem isRounded_of_exactValue? {value : Float} {number : ℚ}
    (isValue : exactValue? value = some number) : IsRounded number number := by
  unfold exactValue? at isValue
  cases kind : value.toModel.unpack with
  | notANumber | infinity =>
      rw [kind] at isValue
      exact nomatch isValue
  | zero sign =>
      rw [kind] at isValue
      obtain rfl := Option.some.inj isValue
      exact isRounded_zero
  | finite sign mantissa exponent positive =>
      rw [kind] at isValue
      obtain rfl := Option.some.inj isValue
      exact (isRounded_magnitude (isCanonical_of_unpack kind)).signed sign

end MainsCharts.Numeral
