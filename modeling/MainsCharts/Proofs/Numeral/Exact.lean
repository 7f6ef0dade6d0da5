import MainsCharts.Proofs.Numeral.Arithmetic

/-!
# Whole numbers that are doubles

A whole number of at most fifty-three digits is a double (`exists_canonical`), so it is rounded to
itself, and a double that stores it has just this value (`exactValue?_of_stores`).
-/

namespace MainsCharts.Numeral

set_option autoImplicit false

open Float.Model UnpackedFloat

variable {value : Float} {number : ℚ} {whole : Nat}

theorem exactValue?_of_extendedValue?
    (isValue : extendedValue? value = some (number : WithBotTop ℚ)) :
    exactValue? value = some number := by
  rcases kind_cases value with missing | ⟨sign, infinite⟩ | ⟨other, isOther⟩
  · rw [extendedValue?_of_missing missing] at isValue
    exact nomatch isValue
  · rw [extendedValue?_of_infinity infinite] at isValue
    cases sign <;> exact nomatch isValue
  · rw [extendedValue?_of_exact isOther] at isValue
    rw [isOther, WithBotTop.coe_injective (Option.some.inj isValue)]

theorem magnitude_ones (whole : Nat) : magnitude whole 0 = whole := by
  rw [magnitude, zpow_zero, mul_one]

/-- A whole number with few enough digits is the magnitude of a double. -/
theorem exists_canonical (positive : 0 < whole) (small : whole < 2 * leadingBit) :
    ∃ mantissa exponent, IsCanonical mantissa exponent ∧ magnitude mantissa exponent = whole := by
  have size : whole.log2 < 53 := (Nat.log2_lt positive.ne').mpr small
  have shifted := magnitude_decreaseExponent whole 0 (whole.log2 - 52)
  have digits : (decreaseExponent whole 0 (whole.log2 - 52)).1.log2 = 52 := by
    rw [decreaseExponent, log2_shiftLeft positive.ne']
    omega
  have nonzero : (decreaseExponent whole 0 (whole.log2 - 52)).1 ≠ 0 := by
    intro zero
    rw [zero, Nat.log2_zero] at digits
    exact absurd digits (by decide)
  refine ⟨_, _, ⟨?_, ?_, .inl ?_⟩, shifted.trans (magnitude_ones whole)⟩
  · have few : (decreaseExponent whole 0 (whole.log2 - 52)).1.log2 < 53 := by omega
    exact (Nat.log2_lt nonzero).mp few
  · rw [decreaseExponent]
    omega
  · exact (Nat.le_log2 nonzero).mp digits.ge

theorem isRounded_natCast (small : whole < 2 * leadingBit) : IsRounded (whole : ℚ) whole := by
  rcases Nat.eq_zero_or_pos whole with rfl | positive
  · rw [Nat.cast_zero]
    exact isRounded_zero
  · obtain ⟨mantissa, exponent, canonical, same⟩ := exists_canonical positive small
    rw [← same]
    exact isRounded_magnitude canonical

/-- **A double that stores a whole number** with few enough digits has it as its value. -/
theorem exactValue?_of_stores (small : whole < 2 * leadingBit) (stores : Stores whole value) :
    exactValue? value = some (whole : ℚ) := by
  obtain ⟨result, rounded, isValue⟩ := stores
  have itself := isRounded_natCast small
  obtain rfl : result = whole :=
    le_antisymm (rounded.mono itself le_rfl) (itself.mono rounded le_rfl)
  have bounded : |(whole : ℚ)| < overflow := by
    rw [abs_of_nonneg (Nat.cast_nonneg whole)]
    have most : ((2 * leadingBit : Nat) : ℚ) = leadingBit * (2 : ℚ) ^ (1 : Int) := by
      rw [Nat.cast_mul, mul_comm, zpow_one, Nat.cast_ofNat]
    calc (whole : ℚ) < (2 * leadingBit : Nat) := Nat.cast_lt.mpr small
      _ ≤ overflow := most.trans_le (leadingBit_le_of_le (by decide : (1 : Int) ≤ 972))
  rw [clip_of_abs_lt bounded] at isValue
  exact exactValue?_of_extendedValue? isValue

/-! ## Conversions -/

/-- A whole number, normalized, is stored. -/
theorem stores_normalize_natCast (whole : Nat) :
    Stores whole (.ofModel (Float.Model.pack (UnpackedFloat.ofNat Format.binary64 whole))) := by
  have stores := stores_normalize whole 0 .positive
  rwa [zpow_zero, mul_one, Int.cast_natCast] at stores

theorem stores_toFloat (word : UInt64) : Stores word.toNat word.toFloat :=
  stores_normalize_natCast word.toNat

end MainsCharts.Numeral
