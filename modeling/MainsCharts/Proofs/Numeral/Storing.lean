import MainsCharts.Proofs.Numeral.Packing

/-!
# Rounding mantissas

A computation leaves a mantissa and two bits for what lies behind it: whether there is a half,
and whether there is anything more.  These bits locate the value (`Locates`), and still do when
digits of the mantissa are dropped into them (`Locates.shiftRight`), so they are enough to round
it (`Locates.isNearest`).

The digits below the last place of a double are dropped, the mantissa is rounded, and the
result is stored.  So what is stored is the value rounded to a double
(`stores_roundWithAccuracy`), and no number is stored across a double (`Stores.exists_ge`,
`Stores.exists_le`).
-/

namespace MainsCharts.Numeral

set_option autoImplicit false

open Float.Model UnpackedFloat

/-! ## Residual bits -/

/-- Whether the bits behind a mantissa say where a value lies: at the mantissa, below the middle
to the next one, in the middle, or above it. -/
def Locates (extended : ExtendedMantissa) (value : ℚ) : Prop :=
  match extended.roundBit, extended.stickyBit with
  | false, false => value = extended.mantissa
  | false, true => extended.mantissa < value ∧ value < extended.mantissa + 1 / 2
  | true, false => value = extended.mantissa + 1 / 2
  | true, true => extended.mantissa + 1 / 2 < value ∧ value < extended.mantissa + 1

namespace Locates

variable {extended : ExtendedMantissa} {value : ℚ}

theorem bounds (locates : Locates extended value) :
    (extended.mantissa : ℚ) ≤ value ∧ value < extended.mantissa + 1 := by
  rcases extended with ⟨mantissa, _ | _, _ | _⟩ <;> simp only [Locates] at locates <;>
    constructor <;> linarith

/-- A digit that is dropped goes into the bits behind the mantissa. -/
theorem shiftRightOne (locates : Locates extended value) :
    Locates extended.shiftRightOne (value / 2) := by
  rcases extended with ⟨mantissa, roundBit, stickyBit⟩
  obtain ⟨half, rfl | rfl⟩ := Nat.even_or_odd' mantissa
  · have whole : 2 * half / 2 = half := by omega
    have digit : 2 * half % 2 = 0 := by omega
    cases roundBit <;> cases stickyBit <;>
      simp [Locates, ExtendedMantissa.shiftRightOne, whole, digit] at locates ⊢ <;>
      first | constructor <;> linarith | linarith
  · have whole : (2 * half + 1) / 2 = half := by omega
    have digit : (2 * half + 1) % 2 = 1 := by omega
    cases roundBit <;> cases stickyBit <;>
      simp [Locates, ExtendedMantissa.shiftRightOne, whole, digit] at locates ⊢ <;>
      first | constructor <;> linarith | linarith

theorem shiftRight (locates : Locates extended value) (count : Nat) :
    Locates (extended >>> count) (value / (2 : ℚ) ^ (count : Int)) := by
  change Locates (count.repeat ExtendedMantissa.shiftRightOne extended) _
  induction count with
  | zero =>
      rw [Nat.cast_zero, zpow_zero, div_one]
      exact locates
  | succ count ih =>
      rw [Nat.cast_succ, zpow_add_one₀ (by norm_num), ← div_div]
      exact ih.shiftRightOne

/-- **The bits behind a mantissa** are enough to round it. -/
theorem isNearest (locates : Locates extended value) :
    IsNearest value extended.roundedMantissa := by
  rcases extended with ⟨mantissa, _ | _, _ | _⟩
  · obtain rfl : value = mantissa := locates
    exact_mod_cast isNearest_self mantissa
  · obtain ⟨above, below⟩ := locates
    have distance : |value - (mantissa : Int)| < 1 / 2 := by
      rw [Int.cast_natCast, abs_of_pos (sub_pos.mpr above)]
      exact sub_lt_iff_lt_add'.mpr below
    exact isNearest_of_lt distance
  · obtain rfl : value = mantissa + 1 / 2 := locates
    exact isNearest_half mantissa
  · obtain ⟨above, below⟩ := locates
    have distance : |value - ((mantissa + 1 : Nat) : Int)| < 1 / 2 := by
      rw [Int.cast_natCast, abs_of_neg (by push_cast; exact sub_neg.mpr below)]
      push_cast
      dsimp only at above
      linarith
    exact isNearest_of_lt distance

end Locates

/-! ## Places -/

/-- The place where the last digit of a mantissa with an exponent comes to stand. -/
def placeOf (mantissa : Nat) (exponent : Int) : Int :=
  max (mantissa.log2 + exponent - 52) (-1074)

theorem targetExponent_eq (mantissa : Nat) (exponent : Int) :
    Format.binary64.targetExponent (totalExponent mantissa exponent) =
      placeOf mantissa exponent := by
  have digits : ((Format.binary64.mantissaBits : Nat) : Int) = 53 := rfl
  have least : Format.binary64.minExponent = -1074 := rfl
  rw [Format.targetExponent, totalExponent, digits, least, placeOf]
  congr 1
  omega

theorem cast_leadingBit : (leadingBit : ℚ) = (2 : ℚ) ^ (52 : Int) := by
  norm_num [leadingBit]

/-- A value that a mantissa is cut from has its last digit at the place of the mantissa. -/
theorem isPlace_placeOf {value : ℚ} {mantissa : Nat} {exponent : Int}
    (least : magnitude mantissa exponent ≤ value)
    (most : value < magnitude (mantissa + 1) exponent)
    (shifts : exponent ≤ placeOf mantissa exponent) :
    IsPlace value (placeOf mantissa exponent) := by
  have size : |value| = value := abs_of_nonneg ((magnitude_nonneg mantissa exponent).trans least)
  refine ⟨le_max_right _ _, ?_, ?_⟩
  · rw [size]
    by_cases lowest : placeOf mantissa exponent = -1074
    · exact .inr lowest
    · have highest : placeOf mantissa exponent = mantissa.log2 + exponent - 52 := by
        unfold placeOf at lowest ⊢
        omega
      have nonzero : mantissa ≠ 0 := by
        rintro rfl
        rw [Nat.log2_zero] at highest
        omega
      have leading : (2 : ℚ) ^ (mantissa.log2 : Int) ≤ mantissa := by
        rw [zpow_natCast]
        exact_mod_cast Nat.log2_self_le nonzero
      refine .inl ?_
      calc leadingBit * (2 : ℚ) ^ placeOf mantissa exponent
          = (2 : ℚ) ^ (mantissa.log2 : Int) * (2 : ℚ) ^ exponent := by
            rw [cast_leadingBit, ← zpow_add₀ (by norm_num), ← zpow_add₀ (by norm_num), highest]
            congr 1
            omega
        _ ≤ magnitude mantissa exponent :=
            mul_le_mul_of_nonneg_right leading (twoPow_pos exponent).le
        _ ≤ value := least
  · rw [size]
    have bounded : ((mantissa + 1 : Nat) : ℚ) ≤ (2 : ℚ) ^ ((mantissa.log2 + 1 : Nat) : Int) := by
      rw [zpow_natCast]
      exact_mod_cast Nat.lt_log2_self
    calc value < magnitude (mantissa + 1) exponent := most
      _ ≤ (2 : ℚ) ^ ((mantissa.log2 + 1 : Nat) : Int) * (2 : ℚ) ^ exponent :=
          mul_le_mul_of_nonneg_right bounded (twoPow_pos exponent).le
      _ = (2 : ℚ) ^ (mantissa.log2 + 1 + exponent) := by
          rw [← zpow_add₀ (by norm_num)]
          push_cast
          rfl
      _ ≤ (2 : ℚ) ^ (52 + (placeOf mantissa exponent + 1)) := by
          refine zpow_le_zpow_right₀ (by norm_num) ?_
          unfold placeOf
          omega
      _ = 2 * leadingBit * (2 : ℚ) ^ placeOf mantissa exponent := by
          rw [zpow_add₀ (by norm_num), ← cast_leadingBit, double_leadingBit]

/-! ## Rounding -/

/-- Whether a double is what a number is rounded to, or the end of the order that the number is
too close to. -/
def Stores (number : ℚ) (value : Float) : Prop :=
  ∃ result, IsRounded number result ∧ extendedValue? value = some (clip result)

theorem signed_zero (sign : Sign) : signed sign 0 = 0 := by
  cases sign with
  | positive => rfl
  | negative => exact neg_zero

namespace Stores

variable {number bound : ℚ} {value limit : Float}

/-- A number above a double is not stored below it. -/
theorem exists_ge (stores : Stores number value) (isLimit : exactValue? limit = some bound)
    (above : bound ≤ number) :
    ∃ size, extendedValue? value = some size ∧ (bound : WithBotTop ℚ) ≤ size := by
  obtain ⟨result, rounded, isValue⟩ := stores
  refine ⟨_, isValue, ?_⟩
  rw [← clip_of_exactValue? isLimit]
  exact clip_mono ((isRounded_of_exactValue? isLimit).mono rounded above)

/-- A number below a double is not stored above it. -/
theorem exists_le (stores : Stores number value) (isLimit : exactValue? limit = some bound)
    (below : number ≤ bound) :
    ∃ size, extendedValue? value = some size ∧ size ≤ (bound : WithBotTop ℚ) := by
  obtain ⟨result, rounded, isValue⟩ := stores
  refine ⟨_, isValue, ?_⟩
  rw [← clip_of_exactValue? isLimit]
  exact clip_mono (rounded.mono (isRounded_of_exactValue? isLimit) below)

end Stores

theorem stores_zero (sign : Sign) : Stores 0 (.ofModel (Float.Model.pack (.zero sign))) :=
  ⟨0, isRounded_zero, extendedValue?_pack_zero sign⟩

/-- A mantissa that was rounded up to a power of two loses its last digit, and any other one is
left as it is. -/
theorem isCanonical_shift {units : Nat} {place : Int} (least : -1074 ≤ place)
    (leading : leadingBit ≤ units ∨ place = -1074) (most : units ≤ 2 * leadingBit)
    {shifted : ExtendedMantissa × Int}
    (isShifted : shiftToTargetExponent Format.binary64 units place .exact = shifted) :
    IsCanonical shifted.1.mantissa shifted.2 ∧
      magnitude shifted.1.mantissa shifted.2 = magnitude units place := by
  simp only [shiftToTargetExponent, shiftToExponent, targetExponent_eq] at isShifted
  subst isShifted
  rcases most.eq_or_lt with rfl | below
  · have further : (placeOf (2 * leadingBit) place - place).toNat = 1 := by
      have size : (2 * leadingBit).log2 = 53 :=
        (Nat.log2_eq_iff (by decide)).mpr ⟨by decide, by decide⟩
      rw [placeOf, size]
      omega
    have halved : (ExtendedMantissa.ofMantissaAndAccuracy (2 * leadingBit) .exact >>> 1).mantissa =
        leadingBit := rfl
    rw [further, halved, Nat.cast_one]
    refine ⟨⟨by decide, by omega, .inl le_rfl⟩, ?_⟩
    rw [magnitude, magnitude, Nat.cast_mul]
    exact (double_leadingBit place).symm
  · have stays : (placeOf units place - place).toNat = 0 := by
      have size : units.log2 ≤ 52 := by
        rcases Nat.eq_zero_or_pos units with rfl | positive
        · decide
        · exact Nat.le_of_lt_succ ((Nat.log2_lt positive.ne').mpr below)
      unfold placeOf
      omega
    rw [stays, Nat.cast_zero, add_zero]
    exact ⟨⟨below, least, leading⟩, rfl⟩

/-- Dropping the digits below its place leaves a value where it is. -/
theorem locates_shift {value : ℚ} {mantissa : Nat} {exponent : Int} {accuracy : Accuracy}
    (shifts : exponent ≤ placeOf mantissa exponent)
    (locates : Locates (.ofMantissaAndAccuracy mantissa accuracy) (value / (2 : ℚ) ^ exponent))
    {shifted : ExtendedMantissa × Int}
    (isShifted : shiftToTargetExponent Format.binary64 mantissa exponent accuracy = shifted) :
    shifted.2 = placeOf mantissa exponent ∧ Locates shifted.1 (value / (2 : ℚ) ^ shifted.2) := by
  simp only [shiftToTargetExponent, shiftToExponent, targetExponent_eq] at isShifted
  subst isShifted
  refine ⟨by omega, ?_⟩
  rw [zpow_add₀ (by norm_num), ← div_div]
  exact locates.shiftRight _

/-- **What is rounded and stored** is the value, rounded to a double. -/
theorem stores_roundWithAccuracy (sign : Sign) {value : ℚ} {mantissa : Nat}
    {exponent : Int} {accuracy : Accuracy} (shifts : exponent ≤ placeOf mantissa exponent)
    (locates : Locates (.ofMantissaAndAccuracy mantissa accuracy) (value / (2 : ℚ) ^ exponent)) :
    Stores (signed sign value)
      (.ofModel (Float.Model.pack
        (roundWithAccuracy Format.binary64 sign mantissa exponent accuracy))) := by
  have cut : (ExtendedMantissa.ofMantissaAndAccuracy mantissa accuracy).mantissa = mantissa := by
    rcases accuracy with _ | _ | _ <;> rfl
  obtain ⟨above, below⟩ := locates.bounds
  rw [cut, le_div_iff₀ (twoPow_pos exponent)] at above
  rw [cut, div_lt_iff₀ (twoPow_pos exponent), ← Nat.cast_succ] at below
  have nonneg : 0 ≤ value := (magnitude_nonneg mantissa exponent).trans above
  have isPlace := isPlace_placeOf above below shifts
  obtain ⟨first, isFirst⟩ : ∃ first,
      shiftToTargetExponent Format.binary64 mantissa exponent accuracy = first := ⟨_, rfl⟩
  obtain ⟨isPlaceFirst, locatesFirst⟩ := locates_shift shifts locates isFirst
  rw [← isPlaceFirst] at isPlace
  have nearest := locatesFirst.isNearest
  obtain ⟨second, isSecond⟩ : ∃ second, shiftToTargetExponent Format.binary64
      first.1.roundedMantissa first.2 .exact = second := ⟨_, rfl⟩
  obtain ⟨canonical, same⟩ := isCanonical_shift isPlace.least
    ((isPlace.le_units nonneg nearest).imp_left Int.ofNat_le.mp)
    (Int.ofNat_le.mp (isPlace.units_le nearest)) isSecond
  have rounded : IsRounded value (magnitude first.1.roundedMantissa first.2) :=
    ⟨first.2, first.1.roundedMantissa, isPlace, nearest, rfl⟩
  refine ⟨_, rounded.signed sign, ?_⟩
  have result : roundWithAccuracy Format.binary64 sign mantissa exponent accuracy =
      if zero : second.1.mantissa = 0 then .zero sign
      else .finite sign second.1.mantissa second.2 (Nat.pos_of_ne_zero zero) := by
    subst isSecond isFirst
    rfl
  rw [← same, result]
  by_cases zero : second.1.mantissa = 0
  · rw [dif_pos zero, extendedValue?_pack_zero, zero, magnitude, Nat.cast_zero, zero_mul,
      signed_zero]
  · rw [dif_neg zero]
    exact extendedValue?_pack sign _ canonical

end MainsCharts.Numeral
