import MainsCharts.Color
import MainsCharts.Proofs.Numeral.Whole

/-!
# The ends of a gradient

The shares that a gradient starts and ends with are zero and one, without any rounding, and a blend
with such a share is one of its two colors: every product, difference and sum on the way is a whole
number that a double has room for (`exactValue?_blended`).  So a gradient starts with its second
color (`getElem?_gradient_zero`) and, when it has two colors or more, ends with its first
(`getElem?_gradient_last`).
-/

namespace MainsCharts.Color

set_option autoImplicit false

open Numeral

/-! ## Blends -/

/-- What a channel is rounded from, when all of it comes from one of the two colors. -/
theorem exactValue?_blended (first second : UInt8) {share : Float} {part : Nat} (most : part ≤ 1)
    (isShare : exactValue? share = some (part : ℚ)) :
    exactValue? (first.toFloat * share + second.toFloat * (1.0 - share)) =
      some ((first.toNat * part + second.toNat * (1 - part) : Nat) : ℚ) := by
  have firstBounded := first.toNat_lt
  have secondBounded := second.toNat_lt
  have within {value whole : Nat} (bounded : value < 2 ^ 8) (few : whole ≤ 1) :
      value * whole < 2 ^ 8 :=
    ((Nat.mul_le_mul_left value few).trans_eq (Nat.mul_one value)).trans_lt bounded
  have small {whole : Nat} (bounded : whole < 2 ^ 9) : whole < 2 * leadingBit := by
    rw [leadingBit]
    omega
  have missing : exactValue? (1.0 - share) = some ((1 - part : Nat) : ℚ) := by
    refine exactValue?_of_stores (small (by omega)) ?_
    rw [Nat.cast_sub most, Nat.cast_one]
    exact stores_sub exactValue?_one isShare
  have firstPart := within firstBounded most
  have secondPart := within secondBounded (Nat.sub_le 1 part)
  have isFirst : exactValue? (first.toFloat * share) = some ((first.toNat * part : Nat) : ℚ) := by
    refine exactValue?_of_stores (small (by omega)) ?_
    rw [Nat.cast_mul]
    exact stores_mul (exactValue?_toFloat first) isShare
  have isSecond : exactValue? (second.toFloat * (1.0 - share)) =
      some ((second.toNat * (1 - part) : Nat) : ℚ) := by
    refine exactValue?_of_stores (small (by omega)) ?_
    rw [Nat.cast_mul]
    exact stores_mul (exactValue?_toFloat second) missing
  refine exactValue?_of_stores (small (by omega)) ?_
  rw [Nat.cast_add]
  exact stores_add isFirst isSecond

/-- A blend with nothing of the first color is the second. -/
theorem blend_of_zero (first second : Color) {share : Float}
    (isShare : exactValue? share = some ((0 : Nat) : ℚ)) : blend first second share = second := by
  have channel (one other : UInt8) : blendChannel one other share = other := by
    have isValue := exactValue?_blended one other (Nat.zero_le 1) isShare
    rw [Nat.mul_zero, Nat.zero_add, Nat.sub_zero, Nat.mul_one] at isValue
    exact roundToByte_of_exactValue? isValue
  rw [blend, channel, channel, channel, channel]

/-- A blend with the whole of the first color is the first. -/
theorem blend_of_one (first second : Color) {share : Float}
    (isShare : exactValue? share = some ((1 : Nat) : ℚ)) : blend first second share = first := by
  have channel (one other : UInt8) : blendChannel one other share = one := by
    have isValue := exactValue?_blended one other (Nat.le_refl 1) isShare
    rw [Nat.mul_one, Nat.sub_self, Nat.mul_zero, Nat.add_zero] at isValue
    exact roundToByte_of_exactValue? isValue
  rw [blend, channel, channel, channel, channel]

/-! ## Shares -/

section Shares

variable {count : Nat} (several : 1 < count) (fits : count ≤ greatestWord)
include several fits

/-- The double of the number of steps of a gradient. -/
theorem exists_steps :
    ∃ number, exactValue? (Float.ofNat (count - 1)) = some number ∧ 0 < number := by
  obtain ⟨number, isNumber, _, least⟩ := exists_exactValue?_ofNat ((Nat.sub_le count 1).trans fits)
  exact ⟨number, isNumber, one_pos.trans_le (least (Nat.sub_pos_of_lt several))⟩

theorem exactValue?_gradientShare_zero :
    exactValue? (gradientShare count 0) = some ((0 : Nat) : ℚ) := by
  obtain ⟨number, isNumber, positive⟩ := exists_steps several fits
  have isZero : exactValue? (Float.ofNat 0) = some ((0 : Nat) : ℚ) :=
    exactValue?_of_stores (by decide) (stores_ofNat 0)
  refine exactValue?_of_stores (by decide) ?_
  have stores := stores_div isZero isNumber positive.ne'
  rwa [Nat.cast_zero, zero_div] at stores

theorem exactValue?_gradientShare_last :
    exactValue? (gradientShare count (count - 1)) = some ((1 : Nat) : ℚ) := by
  obtain ⟨number, isNumber, positive⟩ := exists_steps several fits
  refine exactValue?_of_stores (by decide) ?_
  have stores := stores_div isNumber isNumber positive.ne'
  rwa [div_self positive.ne', ← Nat.cast_one] at stores

end Shares

/-! ## Gradients -/

variable {count : Nat} (fits : count ≤ greatestWord) (first second : Color)
include fits

/-- **A gradient starts with its second color.** -/
theorem getElem?_gradient_zero (positive : 0 < count) :
    (gradient first second count)[0]? = some second := by
  unfold gradient
  split
  · rfl
  · rename_i several
    have sampled : (List.range count)[0]? = some 0 := List.getElem?_range positive
    rw [List.getElem?_map, sampled, Option.map_some,
      blend_of_zero first second (exactValue?_gradientShare_zero (by omega) fits)]

/-- **A gradient of several colors ends with its first.** -/
theorem getElem?_gradient_last (several : 1 < count) :
    (gradient first second count)[count - 1]? = some first := by
  have sampled : (List.range count)[count - 1]? = some (count - 1) :=
    List.getElem?_range (Nat.sub_lt (by omega) Nat.one_pos)
  rw [gradient, if_neg several.ne', List.getElem?_map, sampled, Option.map_some,
    blend_of_one first second (exactValue?_gradientShare_last several fits)]

end MainsCharts.Color
