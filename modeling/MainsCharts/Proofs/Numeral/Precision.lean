import MainsCharts.Proofs.Numeral.Ordering

/-!
# How precise small doubles are

A number is rounded to a whole number of units of its last place, so it is at most half such a unit
away from its double (`IsRounded.abs_sub_le`).  For the numbers below `2 ^ 9` half a unit is at most
`2 ^ -45`, and a sum or a product of small doubles adds no more than this to the errors that come in
with its operands (`Approximates.add`, `Approximates.mul`).
-/

namespace MainsCharts.Numeral

set_option autoImplicit false

open Float.Model

variable {number other result error further : ℚ} {value first second : Float} {place : Int}

/-! ## One rounding -/

/-- **Rounding moves a number** by at most half a unit of its last place. -/
theorem IsRounded.abs_sub_le (rounded : IsRounded number result) (least : -1074 ≤ place)
    (small : |number| < 2 * leadingBit * (2 : ℚ) ^ place) :
    |result - number| ≤ (2 : ℚ) ^ place / 2 := by
  obtain ⟨last, units, isPlace, nearest, rfl⟩ := rounded
  have positive := twoPow_pos last
  have scaled : units * (2 : ℚ) ^ last - number =
      -(number / (2 : ℚ) ^ last - units) * (2 : ℚ) ^ last := by
    field_simp
    ring
  calc |units * (2 : ℚ) ^ last - number|
      = |number / (2 : ℚ) ^ last - units| * (2 : ℚ) ^ last := by
        rw [scaled, abs_mul, abs_neg, abs_of_pos positive]
    _ ≤ 1 / 2 * (2 : ℚ) ^ last := mul_le_mul_of_nonneg_right nearest.near positive.le
    _ ≤ 1 / 2 * (2 : ℚ) ^ place :=
        mul_le_mul_of_nonneg_left
          (zpow_le_zpow_right₀ (by norm_num) (isPlace.le_of_abs_lt least small)) (by norm_num)
    _ = (2 : ℚ) ^ place / 2 := by ring

/-! ## Small numbers -/

/-- What the numbers are below that are small here, `2 ^ 9`. -/
def smallBound : ℚ :=
  512

/-- Half a unit of the last place of a small number, at most: `2 ^ -45`. -/
def halfUnit : ℚ :=
  1 / 35184372088832

theorem halfUnit_pos : 0 < halfUnit := by
  norm_num [halfUnit]

/-- Whether a double is finite and this close to a number. -/
def Approximates (number : ℚ) (value : Float) (error : ℚ) : Prop :=
  ∃ result, exactValue? value = some result ∧ |result - number| ≤ error

/-- **A small number** is half a unit away from its double at most. -/
theorem Stores.approximates (stores : Stores number value) (small : |number| < smallBound) :
    Approximates number value halfUnit := by
  obtain ⟨result, rounded, isValue⟩ := stores
  have limit : 2 * leadingBit * (2 : ℚ) ^ (-44 : Int) = smallBound := by
    norm_num [leadingBit, smallBound]
  have unit : (2 : ℚ) ^ (-44 : Int) / 2 = halfUnit := by
    norm_num [halfUnit]
  have near : |result - number| ≤ halfUnit := by
    rw [← unit]
    exact rounded.abs_sub_le (by decide) (small.trans_eq limit.symm)
  have finite : |result| < overflow := by
    have bounded : |result| ≤ |result - number| + |number| := by
      simpa using abs_add_le (result - number) number
    have room : halfUnit + smallBound ≤ overflow :=
      calc halfUnit + smallBound ≤ leadingBit * (2 : ℚ) ^ (0 : Int) := by
            norm_num [halfUnit, smallBound, leadingBit]
        _ ≤ overflow := leadingBit_le_of_le (by decide)
    linarith
  rw [clip_of_abs_lt finite] at isValue
  exact ⟨result, exactValue?_of_extendedValue? isValue, near⟩

namespace Approximates

theorem mono (near : Approximates number value error) (more : error ≤ further) :
    Approximates number value further := by
  obtain ⟨result, isValue, distance⟩ := near
  exact ⟨result, isValue, distance.trans more⟩

/-- **A sum of doubles** that are close to numbers. -/
theorem add (near : Approximates number first error) (nearOther : Approximates other second further)
    (small : |number + other| + (error + further) < smallBound) :
    Approximates (number + other) (first + second) (error + further + halfUnit) := by
  obtain ⟨value, isValue, distance⟩ := near
  obtain ⟨valueOther, isOther, distanceOther⟩ := nearOther
  have shifted : |value + valueOther - (number + other)| ≤ error + further := by
    rw [add_sub_add_comm]
    exact (abs_add_le _ _).trans (add_le_add distance distanceOther)
  have bounded : |value + valueOther| < smallBound := by
    have reached := abs_sub_abs_le_abs_sub (value + valueOther) (number + other)
    linarith
  obtain ⟨sum, isSum, rounded⟩ := (stores_add isValue isOther).approximates bounded
  refine ⟨sum, isSum, ?_⟩
  have through := abs_sub_le sum (value + valueOther) (number + other)
  linarith

/-- **A multiple of a double** that is close to a number. -/
theorem mul (isValue : exactValue? first = some number)
    (near : Approximates other second further)
    (small : |number * other| + |number| * further < smallBound) :
    Approximates (number * other) (first * second) (|number| * further + halfUnit) := by
  obtain ⟨valueOther, isOther, distance⟩ := near
  have shifted : |number * valueOther - number * other| ≤ |number| * further := by
    rw [← mul_sub, abs_mul]
    exact mul_le_mul_of_nonneg_left distance (abs_nonneg number)
  have bounded : |number * valueOther| < smallBound := by
    have reached := abs_sub_abs_le_abs_sub (number * valueOther) (number * other)
    linarith
  obtain ⟨product, isProduct, rounded⟩ := (stores_mul isValue isOther).approximates bounded
  refine ⟨product, isProduct, ?_⟩
  have through := abs_sub_le product (number * valueOther) (number * other)
  linarith

end Approximates

end MainsCharts.Numeral
