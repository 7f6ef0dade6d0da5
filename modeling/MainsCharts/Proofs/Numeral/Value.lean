import Mathlib.Algebra.Order.Field.Power
import Mathlib.Algebra.Order.Field.Rat
import Mathlib.Tactic.Linarith
import Mathlib.Tactic.Ring
import MainsCharts.Numeral.Rounding

/-!
# The exact values of doubles

A double that is neither infinite nor missing stands for a rational number, its mantissa
times a power of two (`exactValue?`).  Doubles are compared by their exponents and then by their
mantissas.  This agrees with the order of the numbers (`le_iff`), because a double with more
than the least exponent has the leading bit of its mantissa set, so that a greater exponent
outweighs every mantissa.
-/

namespace MainsCharts.Numeral

set_option autoImplicit false

open Float.Model

/-! ## Values -/

/-- A magnitude with a sign. -/
def signed (sign : UnpackedFloat.Sign) (magnitude : ℚ) : ℚ :=
  match sign with
  | .positive => magnitude
  | .negative => -magnitude

/-- The number that a mantissa and an exponent stand for. -/
def magnitude (mantissa : Nat) (exponent : Int) : ℚ :=
  mantissa * (2 : ℚ) ^ exponent

/-- The exact value of a double, when it is finite. -/
def exactValue? (value : Float) : Option ℚ :=
  match value.toModel.unpack with
  | .notANumber | .infinity _ => none
  | .zero _ => some 0
  | .finite sign mantissa exponent _ => some (signed sign (magnitude mantissa exponent))

theorem exactValue?_of_finite {value : Float} {sign : UnpackedFloat.Sign} {mantissa : Nat}
    {exponent : Int} {positive : 0 < mantissa}
    (finite : value.toModel.unpack = .finite sign mantissa exponent positive) :
    exactValue? value = some (signed sign (magnitude mantissa exponent)) := by
  rw [exactValue?, finite]

/-! ## Mantissas and exponents -/

/-- The least mantissa with its leading bit set, `2 ^ 52`. -/
def leadingBit : Nat := 4503599627370496

/-- Which mantissas and exponents doubles have.  The leading bit is set except under the
least exponent. -/
structure IsCanonical (mantissa : Nat) (exponent : Int) : Prop where
  bounded : mantissa < 2 * leadingBit
  least : -1074 ≤ exponent
  leading : leadingBit ≤ mantissa ∨ exponent = -1074

theorem toNat_leading_append (mantissa : BitVec 52) :
    (1#1 ++ mantissa).toNat = leadingBit + mantissa.toNat := by
  rw [BitVec.toNat_append, ← Nat.shiftLeft_add_eq_or_of_lt mantissa.isLt]
  rfl

/-- A double is read with a mantissa and an exponent that doubles have. -/
theorem isCanonical_of_unpack {value : Float} {sign : UnpackedFloat.Sign} {mantissa : Nat}
    {exponent : Int} {positive : 0 < mantissa}
    (kind : value.toModel.unpack = .finite sign mantissa exponent positive) :
    IsCanonical mantissa exponent := by
  unfold Float.Model.unpack UnpackedFloat.unpack at kind
  dsimp only at kind
  have bias : ((Format.binary64.exponentBias : Nat) : Int) = 1023 := rfl
  have bits : ((Format.binary64.mantissaBitsWithoutImplicit : Nat) : Int) = 52 := rfl
  rw [bias, bits] at kind
  generalize @UnpackedFloat.unpackExponent Format.binary64 _ = raised at kind
  have short : (@UnpackedFloat.unpackMantissa Format.binary64
      value.toModel.toBits.toBitVec).toNat < leadingBit := BitVec.isLt _
  by_cases highest : raised = -1#11
  · rw [if_pos highest, ite_eq_iff] at kind
    rcases kind with ⟨_, kind⟩ | ⟨_, kind⟩ <;> cases kind
  rw [if_neg highest] at kind
  by_cases lowest : raised = 0#11
  · rw [if_pos lowest, dite_eq_iff] at kind
    rcases kind with ⟨_, kind⟩ | ⟨_, kind⟩
    · cases kind
    · obtain ⟨rfl, rfl, rfl⟩ := UnpackedFloat.finite.inj kind
      have zero : raised.toNat = 0 := congrArg BitVec.toNat lowest
      rw [zero]
      exact ⟨by omega, by decide, .inr rfl⟩
  · rw [if_neg lowest] at kind
    obtain ⟨rfl, rfl, rfl⟩ := UnpackedFloat.finite.inj kind
    have nonzero : raised.toNat ≠ 0 := fun zero => lowest (BitVec.eq_of_toNat_eq zero)
    have appended := toNat_leading_append
      (@UnpackedFloat.unpackMantissa Format.binary64 value.toModel.toBits.toBitVec)
    exact ⟨by omega, by omega, .inl (by omega)⟩

/-! ## Order -/

theorem magnitude_pos {mantissa : Nat} (positive : 0 < mantissa) (exponent : Int) :
    0 < magnitude mantissa exponent :=
  mul_pos (Nat.cast_pos.mpr positive) (zpow_pos (by norm_num) exponent)

/-- Under one exponent the mantissas decide. -/
theorem magnitude_le_iff (first second : Nat) (exponent : Int) :
    magnitude first exponent ≤ magnitude second exponent ↔ first ≤ second := by
  rw [magnitude, magnitude, mul_le_mul_iff_left₀ (zpow_pos (by norm_num) exponent), Nat.cast_le]

/-- A greater exponent outweighs every mantissa. -/
theorem magnitude_lt_of_exponent_lt {first second : Nat} {lesser greater : Int}
    (canonical : IsCanonical first lesser) (other : IsCanonical second greater)
    (less : lesser < greater) : magnitude first lesser < magnitude second greater := by
  have leading : leadingBit ≤ second := by
    rcases other.leading with leading | lowest
    · exact leading
    · have least := canonical.least
      omega
  calc magnitude first lesser < (2 * leadingBit : Nat) * (2 : ℚ) ^ lesser :=
        mul_lt_mul_of_pos_right (Nat.cast_lt.mpr canonical.bounded) (zpow_pos (by norm_num) lesser)
    _ = leadingBit * (2 : ℚ) ^ (lesser + 1) := by
        rw [zpow_add_one₀ (by norm_num)]
        push_cast
        ring
    _ ≤ leadingBit * (2 : ℚ) ^ greater :=
        mul_le_mul_of_nonneg_left (zpow_le_zpow_right₀ (by norm_num) less) (Nat.cast_nonneg _)
    _ ≤ magnitude second greater :=
        mul_le_mul_of_nonneg_right (Nat.cast_le.mpr leading) (zpow_pos (by norm_num) greater).le

/-- Doubles of one sign are ordered by their exponents and then by their mantissas. -/
theorem isLE_compare_iff {first second : Nat} {exponent other : Int}
    (canonical : IsCanonical first exponent) (canonicalOther : IsCanonical second other) :
    ((compare exponent other).then (compare first second)).isLE = true ↔
      magnitude first exponent ≤ magnitude second other := by
  rcases lt_trichotomy exponent other with less | rfl | greater
  · have ordered := magnitude_lt_of_exponent_lt canonical canonicalOther less
    rw [compare_lt_iff_lt.mpr less]
    exact iff_of_true rfl ordered.le
  · rw [compare_eq_iff_eq.mpr rfl, magnitude_le_iff]
    exact Nat.isLE_compare
  · have ordered := magnitude_lt_of_exponent_lt canonicalOther canonical greater
    rw [compare_gt_iff_gt.mpr greater]
    exact iff_of_false Bool.false_ne_true (not_le.mpr ordered)

theorem signed_negative_neg {mantissa : Nat} (positive : 0 < mantissa) (exponent : Int) :
    signed .negative (magnitude mantissa exponent) < 0 :=
  neg_lt_zero.mpr (magnitude_pos positive exponent)

/-- Negative doubles are ordered the other way around. -/
theorem isLE_swap_compare_iff {first second : Nat} {exponent other : Int}
    (canonical : IsCanonical first exponent) (canonicalOther : IsCanonical second other) :
    ((compare exponent other).then (compare first second)).swap.isLE = true ↔
      signed .negative (magnitude first exponent) ≤ signed .negative (magnitude second other) := by
  rw [Ordering.swap_then, Int.compare_swap, Nat.compare_swap,
    isLE_compare_iff canonicalOther canonical]
  exact neg_le_neg_iff.symm

/-- **The order of finite doubles** is that of the numbers that they stand for. -/
theorem le_iff {first second : Float} {value other : ℚ} (isValue : exactValue? first = some value)
    (isOther : exactValue? second = some other) : first ≤ second ↔ value ≤ other := by
  have unfolded : first ≤ second ↔
      first.toModel.unpack.le second.toModel.unpack = true := decide_eq_true_iff
  rw [unfolded, UnpackedFloat.le]
  unfold exactValue? at isValue isOther
  cases kind : first.toModel.unpack with
  | notANumber | infinity =>
      rw [kind] at isValue
      exact nomatch isValue
  | zero sign =>
      rw [kind] at isValue
      obtain rfl := Option.some.inj isValue
      cases kindOther : second.toModel.unpack with
      | notANumber | infinity =>
          rw [kindOther] at isOther
          exact nomatch isOther
      | zero signOther =>
          rw [kindOther] at isOther
          obtain rfl := Option.some.inj isOther
          exact iff_of_true rfl le_rfl
      | finite signOther mantissa exponent positive =>
          rw [kindOther] at isOther
          obtain rfl := Option.some.inj isOther
          cases signOther with
          | positive => exact iff_of_true rfl (magnitude_pos positive exponent).le
          | negative =>
              exact iff_of_false Bool.false_ne_true (signed_negative_neg positive exponent).not_ge
  | finite sign mantissa exponent positive =>
      rw [kind] at isValue
      obtain rfl := Option.some.inj isValue
      have canonical := isCanonical_of_unpack kind
      have below := signed_negative_neg positive exponent
      have above := magnitude_pos positive exponent
      cases kindOther : second.toModel.unpack with
      | notANumber | infinity =>
          rw [kindOther] at isOther
          exact nomatch isOther
      | zero signOther =>
          rw [kindOther] at isOther
          obtain rfl := Option.some.inj isOther
          cases sign with
          | positive => exact iff_of_false Bool.false_ne_true above.not_ge
          | negative => exact iff_of_true rfl below.le
      | finite signOther mantissaOther exponentOther positiveOther =>
          rw [kindOther] at isOther
          obtain rfl := Option.some.inj isOther
          have canonicalOther := isCanonical_of_unpack kindOther
          have belowOther := signed_negative_neg positiveOther exponentOther
          have aboveOther := magnitude_pos positiveOther exponentOther
          cases sign with
          | positive =>
              cases signOther with
              | positive => exact isLE_compare_iff canonical canonicalOther
              | negative =>
                  exact iff_of_false Bool.false_ne_true (belowOther.trans above).not_ge
          | negative =>
              cases signOther with
              | positive => exact iff_of_true rfl (below.trans aboveOther).le
              | negative => exact isLE_swap_compare_iff canonical canonicalOther

/-- The strict order of finite doubles. -/
theorem not_le_iff {first second : Float} {value other : ℚ}
    (isValue : exactValue? first = some value) (isOther : exactValue? second = some other) :
    ¬ second ≤ first ↔ value < other := by
  rw [le_iff isOther isValue, not_le]

end MainsCharts.Numeral
