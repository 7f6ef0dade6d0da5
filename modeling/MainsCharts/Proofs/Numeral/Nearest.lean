import Mathlib.Algebra.Order.Field.Basic
import Mathlib.Algebra.Order.Ring.Abs
import Mathlib.Tactic.FieldSimp
import Mathlib.Tactic.Positivity
import MainsCharts.Numeral.FixedPoint
import MainsCharts.Proofs.Numeral.Value

/-!
# Rounding to a number of places

Doubles are written with a fixed number of places by rounding their exact value to a whole
number of units, the nearest, and of two that are equally near the even one (`IsNearest`).
There is one such number only, and it grows with the value (`IsNearest.mono`), so rounding
does not turn the order of two doubles around.
-/

namespace MainsCharts.Numeral

set_option autoImplicit false

open Float.Model

/-- Whether a whole number is nearest to a value, and even when another is as near. -/
structure IsNearest (value : ℚ) (units : Int) : Prop where
  near : |value - units| ≤ 1 / 2
  even_of_tie : |value - units| = 1 / 2 → units % 2 = 0

namespace IsNearest

variable {value other : ℚ} {units further : Int}

protected theorem neg (nearest : IsNearest value units) : IsNearest (-value) (-units) := by
  have mirrored : |-value - (-units : Int)| = |value - units| := by
    rw [← abs_neg]
    congr 1
    push_cast
    ring
  constructor
  · rw [mirrored]
    exact nearest.near
  · rw [mirrored]
    intro tie
    have even := nearest.even_of_tie tie
    omega

/-- **Rounding keeps the order.**  If it did not, both values would lie in the middle between
two neighbours, and both of these would be even. -/
theorem mono (nearest : IsNearest value units) (nearestOther : IsNearest other further)
    (ordered : value ≤ other) : units ≤ further := by
  by_contra greater
  have neighbours : (further : ℚ) + 1 ≤ units := by exact_mod_cast not_le.mp greater
  obtain ⟨_, above⟩ := abs_le.mp nearestOther.near
  obtain ⟨below, _⟩ := abs_le.mp nearest.near
  have middle : value - units = -(1 / 2) := by linarith
  have middleOther : other - further = 1 / 2 := by linarith
  have adjacent : (units : ℚ) = further + 1 := by linarith
  have even := nearest.even_of_tie (by rw [middle, abs_neg]; norm_num)
  have evenOther := nearestOther.even_of_tie (by rw [middleOther]; norm_num)
  have adjacentUnits : units = further + 1 := by exact_mod_cast adjacent
  omega

/-- The nearest number, or of two the even one, is determined by the value. -/
theorem unique (nearest : IsNearest value units) (nearestOther : IsNearest value further) :
    units = further :=
  le_antisymm (nearest.mono nearestOther le_rfl) (nearestOther.mono nearest le_rfl)

/-- Values that are more than a unit apart are told apart. -/
theorem lt_of_add_one_lt (nearest : IsNearest value units) (nearestOther : IsNearest other further)
    (apart : value + 1 < other) : units < further := by
  obtain ⟨_, above⟩ := abs_le.mp nearestOther.near
  obtain ⟨below, _⟩ := abs_le.mp nearest.near
  have less : (units : ℚ) < further := by linarith
  exact_mod_cast less

end IsNearest

theorem isNearest_of_lt {value : ℚ} {units : Int} (near : |value - units| < 1 / 2) :
    IsNearest value units :=
  ⟨near.le, fun tie => absurd tie near.ne⟩

/-- A whole number with a half behind it. -/
theorem isNearest_half (below : Nat) : IsNearest (below + 1 / 2) (below + below % 2 : Nat) := by
  rcases Nat.mod_two_eq_zero_or_one below with even | odd
  · have distance : |(below : ℚ) + 1 / 2 - ((below + 0 : Nat) : Int)| = 1 / 2 := by
      push_cast
      rw [add_zero, add_sub_cancel_left, abs_of_pos (by norm_num)]
    rw [even]
    exact ⟨distance.le, fun _ => by omega⟩
  · have distance : |(below : ℚ) + 1 / 2 - ((below + 1 : Nat) : Int)| = 1 / 2 := by
      push_cast
      rw [add_sub_add_left_eq_sub, abs_of_neg (by norm_num)]
      norm_num
    rw [odd]
    exact ⟨distance.le, fun _ => by omega⟩

/-- A fraction is its whole part and the part that is left. -/
theorem div_eq_whole_add (numerator : Nat) {denominator : Nat} (positive : 0 < denominator) :
    (numerator : ℚ) / denominator =
      (numerator / denominator : Nat) + (numerator % denominator : Nat) / denominator := by
  have denominatorPos : (0 : ℚ) < denominator := Nat.cast_pos.mpr positive
  have split : (denominator : ℚ) * (numerator / denominator : Nat) +
      (numerator % denominator : Nat) = numerator := by
    exact_mod_cast Nat.div_add_mod numerator denominator
  rw [← split, add_div, mul_div_cancel_left₀ _ denominatorPos.ne']

/-- The rounding of a fraction gives the number that is nearest to it. -/
theorem isNearest_roundHalfEven (numerator : Nat) {denominator : Nat} (positive : 0 < denominator) :
    IsNearest (numerator / denominator) (roundHalfEven numerator denominator) := by
  have denominatorPos : (0 : ℚ) < denominator := Nat.cast_pos.mpr positive
  have bounded : ((numerator % denominator : Nat) : ℚ) < denominator :=
    Nat.cast_lt.mpr (Nat.mod_lt numerator positive)
  have least : (0 : ℚ) ≤ (numerator % denominator : Nat) / denominator := by positivity
  have most : ((numerator % denominator : Nat) : ℚ) / denominator < 1 :=
    (div_lt_one denominatorPos).mpr bounded
  rw [div_eq_whole_add numerator positive, roundHalfEven]
  generalize numerator / denominator = below
  rcases Nat.lt_trichotomy (2 * (numerator % denominator)) denominator with less | tie | more
  · have small : (2 : ℚ) * (numerator % denominator : Nat) < denominator := by exact_mod_cast less
    have belowHalf : ((numerator % denominator : Nat) : ℚ) / denominator < 1 / 2 := by
      rw [div_lt_iff₀ denominatorPos]
      linarith
    rw [Nat.compare_eq_lt.mpr less]
    refine isNearest_of_lt ?_
    rw [Int.cast_natCast, add_sub_cancel_left, abs_of_nonneg least]
    exact belowHalf
  · have double : (2 : ℚ) * (numerator % denominator : Nat) = denominator := by exact_mod_cast tie
    have half : ((numerator % denominator : Nat) : ℚ) / denominator = 1 / 2 := by
      rw [div_eq_iff denominatorPos.ne']
      linarith
    rw [Nat.compare_eq_eq.mpr tie, half]
    exact isNearest_half _
  · have large : (denominator : ℚ) < 2 * (numerator % denominator : Nat) := by exact_mod_cast more
    have aboveHalf : 1 / 2 < ((numerator % denominator : Nat) : ℚ) / denominator := by
      rw [lt_div_iff₀ denominatorPos]
      linarith
    rw [Nat.compare_eq_gt.mpr more]
    refine isNearest_of_lt (abs_lt.mpr ⟨?_, ?_⟩)
    · push_cast
      linarith
    · push_cast
      linarith

/-! ## Doubles -/

theorem fraction_pos (mantissa : Nat) (exponent : Int) : 0 < (fraction mantissa exponent).2 :=
  Nat.two_pow_pos _

/-- The fraction of a magnitude. -/
theorem fraction_eq (mantissa : Nat) (exponent : Int) :
    ((fraction mantissa exponent).1 : ℚ) / (fraction mantissa exponent).2 =
      magnitude mantissa exponent := by
  have exponents : exponent = exponent.toNat - ((-exponent).toNat : Int) := by omega
  have split : (2 : ℚ) ^ exponent =
      (2 : ℚ) ^ (exponent.toNat : Int) / (2 : ℚ) ^ ((-exponent).toNat : Int) := by
    rw [← zpow_sub₀ (by norm_num), ← exponents]
  rw [fraction, magnitude, split, zpow_natCast, zpow_natCast]
  push_cast
  rw [mul_div_assoc]

/-- The units of a magnitude are nearest to it. -/
theorem isNearest_nearestUnits (places mantissa : Nat) (exponent : Int) :
    IsNearest (magnitude mantissa exponent * 10 ^ places)
      (nearestUnits places mantissa exponent) := by
  have nearest := isNearest_roundHalfEven ((fraction mantissa exponent).1 * 10 ^ places)
    (fraction_pos mantissa exponent)
  have value : magnitude mantissa exponent * 10 ^ places =
      ((fraction mantissa exponent).1 * 10 ^ places : Nat) /
        ((fraction mantissa exponent).2 : ℚ) := by
    rw [← fraction_eq, Nat.cast_mul, Nat.cast_pow, div_mul_eq_mul_div]
    rfl
  rw [value]
  exact nearest

/-- The number of units of `10 ^ -places` nearest to a double. -/
def unitsOf (places : Nat) (value : Float) : Int :=
  match value.toModel.unpack with
  | .notANumber | .infinity _ | .zero _ => 0
  | .finite .positive mantissa exponent _ => nearestUnits places mantissa exponent
  | .finite .negative mantissa exponent _ => -nearestUnits places mantissa exponent

/-- **The units of a double** are nearest to its exact value. -/
theorem isNearest_unitsOf (places : Nat) {value : Float} {number : ℚ}
    (isValue : exactValue? value = some number) :
    IsNearest (number * 10 ^ places) (unitsOf places value) := by
  unfold exactValue? at isValue
  unfold unitsOf
  cases kind : value.toModel.unpack with
  | notANumber | infinity =>
      rw [kind] at isValue
      exact nomatch isValue
  | zero sign =>
      rw [kind] at isValue
      obtain rfl := Option.some.inj isValue
      refine isNearest_of_lt ?_
      norm_num
  | finite sign mantissa exponent positive =>
      rw [kind] at isValue
      obtain rfl := Option.some.inj isValue
      have nearest := isNearest_nearestUnits places mantissa exponent
      cases sign with
      | positive => exact nearest
      | negative =>
          rw [signed, neg_mul]
          exact nearest.neg

end MainsCharts.Numeral
