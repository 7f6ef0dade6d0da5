import MainsCharts.Proofs.Numeral.Ordering
import MainsCharts.Proofs.Numeral.Saturation
import MainsCharts.Proofs.Numeral.Scientific

/-!
# Whole numbers as doubles

The double of a whole number stores it (`stores_ofNat`).  Large whole numbers are rounded, but as
long as they fit a word of sixty-four bits they stay finite, and only zero vanishes
(`exists_exactValue?_ofNat`).

A byte is the value of its double (`exactValue?_toFloat`), and is what a double of this value is
rounded to (`roundToByte_of_exactValue?`).
-/

namespace MainsCharts.Numeral

set_option autoImplicit false

open Float.Model UnpackedFloat

variable {value : Float} {number : ℚ} {whole : Nat}

/-! ## Conversions -/

/-- **A whole number is stored** by its double. -/
theorem stores_ofNat (whole : Nat) : Stores whole (Float.ofNat whole) := by
  have stores := stores_ofScientific whole false 0
  rwa [if_neg Bool.false_ne_true, decimal, Int.natCast_zero, zpow_zero, mul_one] at stores

/-- `2 ^ 64`. -/
theorem exactValue?_large :
    exactValue? (Float.ofBits 0x43F0000000000000) = some 18446744073709551616 := by
  have read : exactValue? (Float.ofBits 0x43F0000000000000) =
      some (signed .positive (magnitude 4503599627370496 12)) := rfl
  rw [read, signed, magnitude]
  norm_num

/-- **A whole number** that fits a word has a finite double, which is at least one unless the number
is zero. -/
theorem exists_exactValue?_ofNat (fits : whole ≤ greatestWord) :
    ∃ number, exactValue? (Float.ofNat whole) = some number ∧ 0 ≤ number ∧
      (0 < whole → 1 ≤ number) := by
  rcases Nat.eq_zero_or_pos whole with rfl | positive
  · exact ⟨0, exactValue?_of_stores (by decide) (stores_ofNat 0), le_rfl, nofun⟩
  · have least : (1 : ℚ) ≤ whole := by exact_mod_cast positive
    have most : (whole : ℚ) ≤ 18446744073709551616 := by
      rw [greatestWord] at fits
      exact_mod_cast fits.trans (by decide)
    obtain ⟨number, isNumber, atLeast, _⟩ :=
      (stores_ofNat whole).exists_between exactValue?_one exactValue?_large least most
    exact ⟨number, isNumber, zero_le_one.trans atLeast, fun _ => atLeast⟩

/-- Whole numbers become doubles in their order. -/
theorem exactValue?_ofNat_mono {longer : Nat} {other : ℚ}
    (isValue : exactValue? (Float.ofNat whole) = some number)
    (isOther : exactValue? (Float.ofNat longer) = some other) (ordered : whole ≤ longer) :
    number ≤ other := by
  obtain ⟨size, further, isSize, isFurther, sizes⟩ :=
    (stores_ofNat whole).exists_le_of_le (stores_ofNat longer) (Nat.cast_le.mpr ordered)
  rw [extendedValue?_of_exact isValue] at isSize
  rw [extendedValue?_of_exact isOther] at isFurther
  obtain rfl := Option.some.inj isSize
  obtain rfl := Option.some.inj isFurther
  exact WithBotTop.coe_le_coe.mp sizes

/-! ## Bytes -/

/-- **The value of a byte.** -/
theorem exactValue?_toFloat (byte : UInt8) : exactValue? byte.toFloat = some (byte.toNat : ℚ) := by
  have bounded := byte.toNat_lt
  refine exactValue?_of_stores ?_ (stores_normalize_natCast byte.toNat)
  rw [leadingBit]
  omega

/-- **A byte is what its value is rounded to.** -/
theorem roundToByte_of_exactValue? {byte : UInt8}
    (isValue : exactValue? value = some (byte.toNat : ℚ)) : roundToByte value = byte := by
  have bounded := byte.toNat_lt
  have floored : ⌊(byte.toNat : ℚ) + 1 / 2⌋₊ = byte.toNat :=
    (Nat.floor_eq_iff (by positivity)).mpr ⟨by linarith, by linarith⟩
  refine UInt8.toNat.inj ?_
  rw [toNat_roundToByte_of_exactValue? isValue, floored]
  omega

end MainsCharts.Numeral
