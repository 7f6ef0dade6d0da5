import MainsCharts.Proofs.Numeral.Arithmetic
import MainsCharts.Proofs.Numeral.Exact

/-!
# Operations that keep the order

Numbers are stored in their order (`Stores.exists_le_of_le`), so the products and quotients of
doubles keep the order of the exact ones, and what lies between two doubles is stored between them
(`Stores.exists_between`).  Values that are not negative may leave the finite doubles at their end;
the end is above all of them and stays there when it is divided (`exists_hundredth`,
`exists_hundredth_le`).
-/

namespace MainsCharts.Numeral

set_option autoImplicit false

open Float.Model

variable {value first second : Float} {number other : ℚ} {size further : WithBotTop ℚ}

/-! ## Constants -/

theorem exactValue?_zero : exactValue? 0.0 = some 0 :=
  rfl

theorem exactValue?_one : exactValue? 1.0 = some 1 := by
  have read : exactValue? 1.0 = some (signed .positive (magnitude 4503599627370496 (-52))) := rfl
  rw [read, signed, magnitude]
  norm_num

theorem exactValue?_hundred : exactValue? 100.0 = some 100 := by
  have read : exactValue? 100.0 = some (signed .positive (magnitude 7036874417766400 (-46))) := rfl
  rw [read, signed, magnitude]
  norm_num

theorem extendedValue?_pack_infinity (sign : UnpackedFloat.Sign) :
    extendedValue? (.ofModel (Float.Model.pack (.infinity sign))) = some (ending sign) := by
  cases sign <;> rfl

/-! ## Values that are not negative -/

/-- A double that is not negative is infinite or finite. -/
theorem kind_of_nonneg (isValue : extendedValue? value = some size)
    (nonneg : ((0 : ℚ) : WithBotTop ℚ) ≤ size) :
    value.toModel.unpack = .infinity .positive ∨
      ∃ number, exactValue? value = some number ∧ 0 ≤ number := by
  rcases extended_cases isValue with ⟨_ | _, infinite, rfl⟩ | ⟨number, isNumber, rfl⟩
  · exact absurd nonneg (by simp [ending])
  · exact .inl infinite
  · exact .inr ⟨number, isNumber, WithBotTop.coe_le_coe.mp nonneg⟩

/-- The double of a number that is not negative. -/
theorem Stores.exists_nonneg (stores : Stores number value) (nonneg : 0 ≤ number) :
    ∃ size, extendedValue? value = some size ∧ ((0 : ℚ) : WithBotTop ℚ) ≤ size :=
  stores.exists_ge exactValue?_zero nonneg

/-- Numbers are stored in their order. -/
theorem Stores.exists_le_of_le (stores : Stores number first) (storesOther : Stores other second)
    (ordered : number ≤ other) :
    ∃ size further, extendedValue? first = some size ∧ extendedValue? second = some further ∧
      size ≤ further := by
  obtain ⟨result, rounded, isValue⟩ := stores
  obtain ⟨resultOther, roundedOther, isValueOther⟩ := storesOther
  exact ⟨_, _, isValue, isValueOther, clip_mono (rounded.mono roundedOther ordered)⟩

/-- A number between two doubles is stored between them. -/
theorem Stores.exists_between {low high : Float} {least most : ℚ} (stores : Stores number value)
    (isLow : exactValue? low = some least) (isHigh : exactValue? high = some most)
    (above : least ≤ number) (below : number ≤ most) :
    ∃ result, exactValue? value = some result ∧ least ≤ result ∧ result ≤ most := by
  obtain ⟨size, isSize, sizeAbove⟩ := stores.exists_ge isLow above
  obtain ⟨same, isSame, sizeBelow⟩ := stores.exists_le isHigh below
  obtain rfl := Option.some.inj (isSize.symm.trans isSame)
  rcases extended_cases isSize with ⟨_ | _, _, rfl⟩ | ⟨result, isResult, rfl⟩
  · exact absurd sizeAbove (by simp [ending])
  · exact absurd sizeBelow (by simp [ending])
  · exact ⟨result, isResult, WithBotTop.coe_le_coe.mp sizeAbove,
      WithBotTop.coe_le_coe.mp sizeBelow⟩

/-! ## Infinite results -/

/-- The infinite double times a positive one. -/
theorem mul_infinity (isValue : exactValue? first = some number) (positive : 0 < number)
    (infinite : second.toModel.unpack = .infinity .positive) :
    extendedValue? (first * second) = some ⊤ := by
  have product : first * second = .ofModel (Float.Model.pack
    (UnpackedFloat.mul Format.binary64 first.toModel.unpack second.toModel.unpack)) := rfl
  rw [product, infinite]
  rcases finite_cases isValue with ⟨_, _, rfl⟩ | ⟨sign, mantissa, exponent, above, kind, rfl⟩
  · exact absurd positive (lt_irrefl 0)
  · rw [kind]
    cases sign with
    | negative => exact absurd positive (signed_negative_neg above exponent).not_gt
    | positive => exact extendedValue?_pack_infinity .positive

/-- A hundredth of the infinite double. -/
theorem hundredth_of_infinity (infinite : value.toModel.unpack = .infinity .positive) :
    extendedValue? (value / 100.0) = some ⊤ := by
  have quotient : value / 100.0 = .ofModel (Float.Model.pack
    (UnpackedFloat.div Format.binary64 value.toModel.unpack (100.0 : Float).toModel.unpack)) := rfl
  rw [quotient, infinite]
  rfl

/-! ## Hundredths -/

theorem stores_hundredth (isValue : exactValue? value = some number) :
    Stores (number / 100) (value / 100.0) :=
  stores_div isValue exactValue?_hundred (by norm_num)

/-- **A hundredth** of what is not negative is not negative either. -/
theorem exists_hundredth (isValue : extendedValue? value = some size)
    (nonneg : ((0 : ℚ) : WithBotTop ℚ) ≤ size) :
    ∃ quotient, extendedValue? (value / 100.0) = some quotient ∧
      ((0 : ℚ) : WithBotTop ℚ) ≤ quotient := by
  rcases kind_of_nonneg isValue nonneg with infinite | ⟨number, isNumber, numberNonneg⟩
  · exact ⟨⊤, hundredth_of_infinity infinite, le_top⟩
  · exact (stores_hundredth isNumber).exists_nonneg (div_nonneg numberNonneg (by norm_num))

/-- **Hundredths are in the order** of the values that they are taken of. -/
theorem exists_hundredth_le (isValue : extendedValue? first = some size)
    (isOther : extendedValue? second = some further) (nonneg : ((0 : ℚ) : WithBotTop ℚ) ≤ size)
    (ordered : size ≤ further) :
    ∃ quotient next, extendedValue? (first / 100.0) = some quotient ∧
      extendedValue? (second / 100.0) = some next ∧ quotient ≤ next := by
  rcases kind_of_nonneg isOther (nonneg.trans ordered) with infinite | ⟨other, isNumberOther, _⟩
  · obtain ⟨quotient, isQuotient, _⟩ := exists_hundredth isValue nonneg
    exact ⟨quotient, ⊤, isQuotient, hundredth_of_infinity infinite, le_top⟩
  · rw [extendedValue?_of_exact isNumberOther] at isOther
    obtain rfl := Option.some.inj isOther
    rcases extended_cases isValue with ⟨_ | _, _, rfl⟩ | ⟨number, isNumber, rfl⟩
    · exact absurd nonneg (by simp [ending])
    · exact absurd ordered (by simp [ending])
    · have below : number / 100 ≤ other / 100 :=
        div_le_div_of_nonneg_right (WithBotTop.coe_le_coe.mp ordered) (by norm_num)
      exact (stores_hundredth isNumber).exists_le_of_le (stores_hundredth isNumberOther) below

end MainsCharts.Numeral
