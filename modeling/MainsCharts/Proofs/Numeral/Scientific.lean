import MainsCharts.Proofs.Numeral.Denotation
import MainsCharts.Proofs.Numeral.Exact

/-!
# Decimal literals as doubles

The double of a decimal literal stores the exact value of the literal (`stores_literal`), however
many digits the literal has and however large its exponent is.

A short mantissa is multiplied with, or divided by, a power of ten that is a double itself, and the
one operation is rounded once.  Otherwise the whole product or quotient is computed and rounded.
Where the exponent is out of all proportion nothing is computed: the value is beyond every double,
or too close to zero for any.
-/

namespace MainsCharts.Numeral

set_option autoImplicit false

open Float.Model UnpackedFloat

variable {value : Float} {number : ℚ}

/-! ## Signs -/

/-- The end of the order for a number with the other sign is the other end. -/
theorem clip_neg {sign : Sign} (large : clip number = ending sign) :
    clip (-number) = ending (-sign) := by
  unfold clip at large
  by_cases above : overflow ≤ number
  · rw [if_pos above] at large
    cases sign with
    | positive => exact clip_signed .negative above
    | negative => exact absurd large top_ne_bot
  · rw [if_neg above] at large
    by_cases below : number ≤ -overflow
    · rw [if_pos below] at large
      cases sign with
      | positive => exact absurd large bot_ne_top
      | negative => exact if_pos (le_neg_of_le_neg below)
    · rw [if_neg below] at large
      cases sign <;> exact nomatch large

/-- A number that is not clipped is left as it is. -/
theorem eq_of_clip_eq {result : ℚ} (kept : clip result = (number : WithBotTop ℚ)) :
    result = number := by
  unfold clip at kept
  split at kept
  · exact nomatch kept
  split at kept
  · exact nomatch kept
  · exact WithBotTop.coe_injective kept

/-- The double with the other sign stores the number with the other sign. -/
protected theorem Stores.neg (stores : Stores number value) : Stores (-number) (-value) := by
  obtain ⟨result, rounded, isValue⟩ := stores
  have negated : -value = .ofModel (Float.Model.pack value.toModel.unpack.neg) := rfl
  -- The sign is changed in what is stored, so both an end of the order and zero have to be seen to.
  refine ⟨-result, rounded.neg, ?_⟩
  rw [negated]
  rcases kind_cases value with missing | ⟨sign, infinite⟩ | ⟨other, isOther⟩
  · rw [extendedValue?_of_missing missing] at isValue
    exact nomatch isValue
  · rw [extendedValue?_of_infinity infinite] at isValue
    rw [infinite, clip_neg (Option.some.inj isValue).symm]
    cases sign <;> rfl
  · rw [extendedValue?_of_exact isOther] at isValue
    obtain rfl := eq_of_clip_eq (Option.some.inj isValue).symm
    rcases finite_cases isOther with
      ⟨sign, kind, rfl⟩ | ⟨sign, mantissa, exponent, positive, kind, rfl⟩
    · rw [kind, neg_zero]
      exact extendedValue?_pack_zero (-sign)
    · rw [kind, ← signed_neg]
      exact extendedValue?_pack (-sign) positive (isCanonical_of_unpack kind)

/-! ## Powers of ten -/

/-- Whether a double is a power of ten. -/
def isPowerOfTen (value : Float) (exponent : Nat) : Bool :=
  match value.toModel.unpack with
  | .finite .positive mantissa place _ =>
      (fraction mantissa place).1 == 10 ^ exponent * (fraction mantissa place).2
  | _ => false

theorem exactValue?_of_isPowerOfTen {exponent : Nat}
    (isPower : isPowerOfTen value exponent = true) :
    exactValue? value = some (10 ^ exponent) := by
  unfold isPowerOfTen at isPower
  unfold exactValue?
  cases kind : value.toModel.unpack with
  | notANumber | infinity | zero =>
      rw [kind] at isPower
      exact absurd isPower Bool.false_ne_true
  | finite sign mantissa place positive =>
      rw [kind] at isPower
      cases sign with
      | negative => exact absurd isPower Bool.false_ne_true
      | positive =>
          have divisor := fraction_pos mantissa place
          dsimp only at isPower ⊢
          rw [signed, ← fraction_eq, beq_iff_eq.mp isPower, Nat.cast_mul,
            mul_div_cancel_right₀ _ (Nat.cast_pos.mpr divisor).ne', Nat.cast_pow, Nat.cast_ofNat]

/-- The powers of ten up to the twenty-second are doubles. -/
theorem exactValue?_powerOfTen {exponent : Nat}
    (listed : exponent < Float.exactlyRepresentablePowersOfTen.size) :
    exactValue? Float.exactlyRepresentablePowersOfTen[exponent] = some (10 ^ exponent) := by
  have all : ∀ index : Fin 23,
      isPowerOfTen Float.exactlyRepresentablePowersOfTen[index] index = true := by decide
  exact exactValue?_of_isPowerOfTen (all ⟨exponent, listed⟩)

/-! ## Decimal numbers -/

/-- A mantissa times a power of ten. -/
def decimal (mantissa : Nat) (exponent : Int) : ℚ :=
  mantissa * (10 : ℚ) ^ exponent

theorem decimal_natCast (mantissa exponent : Nat) :
    decimal mantissa exponent = mantissa * 10 ^ exponent := by
  rw [decimal, zpow_natCast]

theorem decimal_neg_natCast (mantissa exponent : Nat) :
    decimal mantissa (-exponent) = mantissa / 10 ^ exponent := by
  rw [decimal, zpow_neg, zpow_natCast, div_eq_mul_inv]

theorem twoPow_le_tenPow (exponent : Nat) : (2 : ℚ) ^ (exponent : Int) ≤ 10 ^ exponent := by
  rw [zpow_natCast]
  exact pow_le_pow_left₀ (by norm_num) (by norm_num) exponent

/-- A short mantissa with a small exponent: one operation of two doubles. -/
theorem stores_short {mantissa exponent : Nat} (negative : Bool) (short : mantissa < 2 * leadingBit)
    (listed : exponent < Float.exactlyRepresentablePowersOfTen.size) :
    Stores (decimal mantissa (if negative then -exponent else exponent))
      (if negative then mantissa.toUInt64.toFloat / Float.exactlyRepresentablePowersOfTen[exponent]
      else mantissa.toUInt64.toFloat * Float.exactlyRepresentablePowersOfTen[exponent]) := by
  have word : mantissa.toUInt64.toNat = mantissa := by
    rw [leadingBit] at short
    rw [Nat.toUInt64, UInt64.toNat_ofNat']
    omega
  have stored := stores_toFloat mantissa.toUInt64
  rw [word] at stored
  have isMantissa := exactValue?_of_stores short stored
  have isPower := exactValue?_powerOfTen listed
  cases negative with
  | false =>
      simp only [Bool.false_eq_true, if_false, decimal_natCast]
      exact stores_mul isMantissa isPower
  | true =>
      simp only [if_true, decimal_neg_natCast]
      exact stores_div isMantissa isPower (pow_pos (by norm_num) exponent).ne'

theorem overflow_eq : overflow = (2 : ℚ) ^ (1024 : Int) := by
  rw [overflow, cast_leadingBit, ← zpow_add₀ (by norm_num)]
  congr 1

/-- The least number that is too large is rounded to itself. -/
theorem isRounded_overflow : IsRounded overflow overflow :=
  isRounded_magnitude ⟨by decide, by decide, .inl le_rfl⟩

/-- A number that is too large for a double. -/
theorem stores_infinity {mantissa exponent : Nat} (positive : 0 < mantissa)
    (large : 2048 < exponent) :
    Stores (decimal mantissa exponent) (.ofModel (Float.Model.pack (.infinity .positive))) := by
  have above : overflow ≤ decimal mantissa exponent := by
    have whole : (1 : ℚ) ≤ mantissa := by exact_mod_cast positive
    calc overflow ≤ (2 : ℚ) ^ (exponent : Int) := by
          rw [overflow_eq]
          exact zpow_le_zpow_right₀ (by norm_num) (by omega)
      _ ≤ 10 ^ exponent := twoPow_le_tenPow exponent
      _ ≤ mantissa * 10 ^ exponent := le_mul_of_one_le_left (by positivity) whole
      _ = decimal mantissa exponent := (decimal_natCast mantissa exponent).symm
  have natural : decimal mantissa exponent = ((mantissa * 10 ^ exponent : Nat) : ℚ) := by
    rw [decimal_natCast]
    push_cast
    rfl
  obtain ⟨result, rounded, -⟩ := stores_normalize_natCast (mantissa * 10 ^ exponent)
  rw [← natural] at rounded
  refine ⟨result, rounded, ?_⟩
  rw [clip, if_pos (isRounded_overflow.mono rounded above)]
  rfl

/-- A number that is too small for a double. -/
theorem stores_tiny {mantissa : Nat} {exponent : Int} (small : exponent < -(2048 + mantissa.log2)) :
    Stores (decimal mantissa exponent) (.ofModel (Float.Model.pack (.zero .positive))) := by
  obtain ⟨count, rfl⟩ : ∃ count : Nat, exponent = -count := ⟨exponent.natAbs, by omega⟩
  have nonneg : 0 ≤ decimal mantissa (-count) := by
    rw [decimal]
    positivity
  have fewer : (mantissa : ℚ) < (2 : ℚ) ^ (mantissa.log2 + 1 : Int) := by
    exact_mod_cast Nat.lt_log2_self
  have tiny : decimal mantissa (-count) < 1 / 2 * (2 : ℚ) ^ (-1074 : Int) :=
    calc decimal mantissa (-count) = mantissa / 10 ^ count := decimal_neg_natCast mantissa count
      _ ≤ mantissa / (2 : ℚ) ^ (count : Int) :=
          div_le_div_of_nonneg_left (Nat.cast_nonneg _) (twoPow_pos _) (twoPow_le_tenPow count)
      _ < (2 : ℚ) ^ (mantissa.log2 + 1 : Int) / (2 : ℚ) ^ (count : Int) :=
          div_lt_div_of_pos_right fewer (twoPow_pos _)
      _ = (2 : ℚ) ^ (mantissa.log2 + 1 - count : Int) := (zpow_sub₀ (by norm_num) _ _).symm
      _ ≤ (2 : ℚ) ^ (-1074 - 1 : Int) := zpow_le_zpow_right₀ (by norm_num) (by omega)
      _ = 1 / 2 * (2 : ℚ) ^ (-1074 : Int) := by
          rw [zpow_sub_one₀ (by norm_num), mul_comm, one_div]
  have bounded : decimal mantissa (-count) < 2 * leadingBit * (2 : ℚ) ^ (-1074 : Int) :=
    tiny.trans (mul_lt_mul_of_pos_right (by norm_num [leadingBit]) (twoPow_pos _))
  refine ⟨0, ⟨-1074, 0, ⟨le_rfl, .inr rfl, ?_⟩, ?_, by norm_num⟩,
    extendedValue?_pack_zero .positive⟩
  · rw [abs_of_nonneg nonneg]
    exact bounded
  · refine isNearest_of_lt ?_
    rw [Int.cast_zero, sub_zero, abs_of_nonneg (div_nonneg nonneg (twoPow_pos _).le),
      div_lt_iff₀ (twoPow_pos _)]
    exact tiny

/-- A mantissa with room for the digits of a double behind it, times a power of ten. -/
theorem stores_product {mantissa : Nat} (positive : 0 < mantissa) (count : Nat) :
    Stores (decimal mantissa count) (.ofModel (Float.Model.pack
      (roundWithAccuracy Format.binary64 .positive (mantissa <<< 53 * 10 ^ count) (-53 + 0)
        .exact))) := by
  have same : magnitude (mantissa <<< 53 * 10 ^ count) (-53 + 0) = decimal mantissa count := by
    have shifted := (magnitude_decreaseExponent mantissa 0 (-53)).trans (magnitude_ones mantissa)
    rw [decreaseExponent] at shifted
    rw [magnitude_mul, magnitude_ones, decimal_natCast, Nat.cast_pow, Nat.cast_ofNat]
    congr 1
  rw [← same]
  refine stores_roundWithAccuracy .positive ?_ (locates_exact _ _)
  have leading : leadingBit ≤ mantissa <<< 53 * 10 ^ count := by
    rw [Nat.shiftLeft_eq]
    calc leadingBit ≤ 2 ^ 53 := by decide
      _ ≤ mantissa * 2 ^ 53 := Nat.le_mul_of_pos_left _ positive
      _ ≤ mantissa * 2 ^ 53 * 10 ^ count := Nat.le_mul_of_pos_right _ (Nat.pow_pos (by decide))
  have digits : 52 ≤ (mantissa <<< 53 * 10 ^ count).log2 :=
    (Nat.le_log2 (Nat.ne_of_gt (Nat.lt_of_lt_of_le (by decide) leading))).mpr leading
  unfold placeOf
  omega

/-- **A mantissa and an exponent** are stored as one rounding of their number. -/
theorem stores_ofScientificModel (mantissa : Nat) (exponent : Int) :
    Stores (decimal mantissa exponent) (.ofModel (Float.Model.ofScientific mantissa exponent)) := by
  have size : (2 ^ Format.binary64.exponentBits : Int) = 2048 := rfl
  unfold Float.Model.ofScientific UnpackedFloat.ofScientific
  rw [size]
  by_cases nothing : mantissa = 0
  · rw [dif_pos nothing, decimal, nothing, Nat.cast_zero, zero_mul]
    exact stores_zero .positive
  have positive : 0 < mantissa := Nat.pos_of_ne_zero nothing
  rw [dif_neg nothing]
  -- The two tests that keep the powers of ten small come first, each with its own rounding.
  by_cases large : 2048 < exponent
  · rw [if_pos large]
    obtain ⟨count, rfl⟩ := Int.eq_ofNat_of_zero_le (show 0 ≤ exponent by omega)
    exact stores_infinity positive (by omega)
  rw [if_neg large]
  by_cases small : exponent < -(2048 + mantissa.log2)
  · rw [if_pos small]
    exact stores_tiny small
  rw [if_neg small]
  by_cases atLeast : 0 ≤ exponent
  · rw [if_pos atLeast]
    obtain ⟨count, rfl⟩ := Int.eq_ofNat_of_zero_le atLeast
    exact stores_product positive count
  · rw [if_neg atLeast]
    have stores := stores_divCore .positive 0 0 positive
      (Nat.pow_pos (by decide) : 0 < 10 ^ (-exponent).toNat) rfl
    have lowered : -((-exponent).toNat : Int) = exponent := by omega
    rw [magnitude_ones, magnitude_ones, signed, Nat.cast_pow, Nat.cast_ofNat, ← decimal_neg_natCast,
      lowered] at stores
    exact stores

theorem stores_ofScientific (mantissa : Nat) (negative : Bool) (exponent : Nat) :
    Stores (decimal mantissa (if negative then -exponent else exponent))
      (Float.ofScientific mantissa negative exponent) := by
  rw [Float.ofScientific]
  by_cases short : mantissa < 2 ^ 53 ∧ exponent ≤ 22
  · rw [dif_pos short]
    exact stores_short negative short.1 _
  · rw [dif_neg short]
    cases negative with
    | false => exact stores_ofScientificModel mantissa exponent
    | true =>
        rw [if_pos rfl, if_pos rfl, Int.negOfNat_eq]
        exact stores_ofScientificModel mantissa (-exponent)

/-! ## Literals -/

theorem Literal.value_eq_decimal (literal : Literal) : literal.value =
    if literal.negative then -decimal literal.digits literal.exponent
    else decimal literal.digits literal.exponent := by
  rw [Literal.value, decimal]
  split
  · rw [neg_one_mul, neg_mul]
  · rw [one_mul]

/-- **A literal is read** as its value, rounded to a double. -/
theorem stores_literal (literal : Literal) : Stores literal.value literal.toFloat := by
  have stores := stores_ofScientific literal.digits (literal.exponent < 0) literal.exponent.natAbs
  have exponent : (if decide (literal.exponent < 0) = true then -(literal.exponent.natAbs : Int)
      else literal.exponent.natAbs) = literal.exponent := by
    split
    · rename_i below
      have negative := of_decide_eq_true below
      omega
    · rename_i atLeast
      have nonneg := mt decide_eq_true atLeast
      omega
  rw [exponent] at stores
  rw [literal.value_eq_decimal, Literal.toFloat]
  split
  · exact stores.neg
  · exact stores

/-- A literal whose double is finite has it as the double nearest to its value. -/
theorem Literal.isFinite_toFloat_iff {literal : Literal} : literal.toFloat.isFinite = true ↔
    ∃ number, IsRounded literal.value number ∧ exactValue? literal.toFloat = some number := by
  rw [isFinite_iff]
  constructor
  · rintro ⟨number, isNumber⟩
    obtain ⟨result, rounded, isValue⟩ := stores_literal literal
    rw [extendedValue?_of_exact isNumber] at isValue
    obtain rfl := eq_of_clip_eq (Option.some.inj isValue).symm
    exact ⟨result, rounded, isNumber⟩
  · rintro ⟨number, -, isNumber⟩
    exact ⟨number, isNumber⟩

end MainsCharts.Numeral
