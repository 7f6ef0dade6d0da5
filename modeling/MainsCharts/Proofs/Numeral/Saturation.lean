import Mathlib.Algebra.Order.Floor.Semifield
import Mathlib.Data.Rat.Floor
import MainsCharts.Proofs.Numeral.Extended
import MainsCharts.Proofs.Numeral.Nearest

/-!
# Doubles brought into words

Doubles are brought into a word by rounding the fraction that they stand for.  Both roundings that
are used are the floor of a number: of the double itself (`floorToWord_of_exactValue?`), and of the
number that lies half a unit above it (`toNat_roundToByte_of_exactValue?`).  So they keep the order,
and what is too large for the word becomes the greatest number in it (`floorToWord_mono`).  A double
that is no number becomes zero; of the others only those below one do (`floorToWord_eq_zero_iff`).
-/

namespace MainsCharts.Numeral

set_option autoImplicit false

open Float.Model

variable {value first second : Float} {number : ℚ} {rule : Nat → Nat → Nat} {most : Nat}

/-! ## Rules -/

/-- **A finite double is brought into a word** by a rule that rounds fractions. -/
theorem saturate_of_exactValue? (rounded : ℚ → Nat)
    (isRule : ∀ numerator denominator, 0 < denominator →
      rule numerator denominator = rounded (numerator / denominator))
    (nonpos : ∀ other, other ≤ 0 → rounded other = 0) (isValue : exactValue? value = some number) :
    saturate rule most value = min most (rounded number) := by
  unfold saturate
  rcases finite_cases isValue with ⟨_, kind, rfl⟩ | ⟨sign, mantissa, exponent, positive, kind, rfl⟩
  · rw [kind, nonpos 0 le_rfl, Nat.min_zero]
  · rw [kind]
    cases sign with
    | negative => rw [nonpos _ (signed_negative_neg positive exponent).le, Nat.min_zero]
    | positive =>
        dsimp only
        rw [isRule _ (fraction mantissa exponent).2 (fraction_pos _ _), fraction_eq]
        rfl

theorem saturate_le (value : Float) : saturate rule most value ≤ most := by
  unfold saturate
  split
  · exact Nat.zero_le most
  · exact le_rfl
  · exact Nat.zero_le most
  · exact Nat.zero_le most
  · exact Nat.zero_le most
  · exact Nat.min_le_left _ _

theorem saturate_of_infinity_positive (infinite : value.toModel.unpack = .infinity .positive) :
    saturate rule most value = most := by
  rw [saturate, infinite]

theorem saturate_of_infinity_negative (infinite : value.toModel.unpack = .infinity .negative) :
    saturate rule most value = 0 := by
  rw [saturate, infinite]

/-! ## Floors -/

/-- **The floor of a double**, as far as it fits a word. -/
theorem floorToWord_of_exactValue? (isValue : exactValue? value = some number) :
    floorToWord value = min greatestWord ⌊number⌋₊ :=
  saturate_of_exactValue? Nat.floor (fun numerator denominator _ =>
    (Nat.floor_div_eq_div numerator denominator).symm) (fun _ => Nat.floor_of_nonpos) isValue

/-- The nearest integer is the floor of what lies half a unit above. -/
theorem roundHalfUp_eq_floor (numerator : Nat) {denominator : Nat} (positive : 0 < denominator) :
    roundHalfUp numerator denominator = ⌊(numerator : ℚ) / denominator + 1 / 2⌋₊ := by
  have nonzero : (denominator : ℚ) ≠ 0 := (Nat.cast_pos.mpr positive).ne'
  have doubled : (numerator : ℚ) / denominator + 1 / 2 =
      ((2 * numerator + denominator : Nat) : ℚ) / (2 * denominator : Nat) := by
    push_cast
    field_simp
  rw [roundHalfUp, doubled, Nat.floor_div_eq_div]

/-- **The byte nearest to a double.** -/
theorem toNat_roundToByte_of_exactValue? (isValue : exactValue? value = some number) :
    (roundToByte value).toNat = min 255 ⌊number + 1 / 2⌋₊ := by
  have rounded : saturate roundHalfUp 255 value = min 255 ⌊number + 1 / 2⌋₊ := by
    refine saturate_of_exactValue? (fun other => ⌊other + 1 / 2⌋₊)
      (fun numerator _ => roundHalfUp_eq_floor numerator) ?_ isValue
    intro other nonpos
    exact Nat.floor_eq_zero.mpr (by linarith)
  rw [roundToByte, rounded]
  exact UInt8.toNat_ofNat_of_lt (Nat.lt_succ_of_le (Nat.min_le_left _ _))

/-- **Floors keep the order**, as far as the ends of it. -/
theorem floorToWord_mono {size other : WithBotTop ℚ} (isValue : extendedValue? first = some size)
    (isOther : extendedValue? second = some other) (ordered : size ≤ other) :
    floorToWord first ≤ floorToWord second := by
  rcases extended_cases isOther with ⟨_ | _, infinite, rfl⟩ | ⟨further, isFurther, rfl⟩
  · have least : size = ⊥ := le_bot_iff.mp ordered
    rcases extended_cases isValue with ⟨_ | _, below, rfl⟩ | ⟨_, _, rfl⟩
    · exact (saturate_of_infinity_negative below).trans_le (Nat.zero_le _)
    · exact nomatch least
    · exact nomatch least
  · exact (saturate_le first).trans_eq (saturate_of_infinity_positive infinite).symm
  · rcases extended_cases isValue with ⟨_ | _, below, rfl⟩ | ⟨number, isNumber, rfl⟩
    · exact (saturate_of_infinity_negative below).trans_le (Nat.zero_le _)
    · exact absurd ordered (by simp [ending])
    · rw [floorToWord_of_exactValue? isNumber, floorToWord_of_exactValue? isFurther]
      exact min_le_min_left _ (Nat.floor_mono (WithBotTop.coe_le_coe.mp ordered))

/-- **What becomes zero** of the numbers. -/
theorem floorToWord_eq_zero_iff {size : WithBotTop ℚ} (isValue : extendedValue? value = some size) :
    floorToWord value = 0 ↔ size < (1 : ℚ) := by
  rcases extended_cases isValue with ⟨_ | _, infinite, rfl⟩ | ⟨number, isNumber, rfl⟩
  · exact iff_of_true (saturate_of_infinity_negative infinite) (WithBot.bot_lt_coe _)
  · have greatest : floorToWord value = greatestWord := saturate_of_infinity_positive infinite
    exact iff_of_false (by rw [greatest]; decide) not_top_lt
  · rw [floorToWord_of_exactValue? isNumber, WithBotTop.coe_lt_coe, ← Nat.floor_eq_zero,
      greatestWord]
    omega

end MainsCharts.Numeral
