import MainsCharts.Proofs.Numeral.Extended
import MainsCharts.Proofs.Numeral.Rounded

/-!
# Storing doubles

What a computation leaves, a mantissa and an exponent, is stored and read back as it is when the
exponent is not too large, and otherwise as an infinity (`unpack_pack`).  So what is stored is the
number itself or the end of the order that it is too close to (`clip`), and since clipping keeps
the order, storing keeps it too.
-/

namespace MainsCharts.Numeral

set_option autoImplicit false

open Float.Model

/-! ## Packing -/

/-- The sign of a double that is put together is read back. -/
theorem unpackSign_packComponents (sign : UnpackedFloat.Sign) (raised : BitVec 11)
    (digits : BitVec 52) :
    UnpackedFloat.Sign.ofBitVec (UnpackedFloat.unpackSign
      (UnpackedFloat.packComponents Format.binary64 sign raised digits)) = sign := by
  change UnpackedFloat.Sign.ofBitVec ((sign.toBitVec ++ raised ++ digits).extractLsb' 63 1) = sign
  rw [BitVec.extractLsb'_append_eq_of_le (by omega), BitVec.extractLsb'_append_eq_of_le (by omega)]
  cases sign <;> rfl

/-- A double is read with a leading bit in front of its digits, unless its exponent is the
lowest or the highest. -/
theorem unpack_of_leading {bits : BitVec Format.binary64.numBits}
    (notHighest : UnpackedFloat.unpackExponent bits ≠ -1#11)
    (notLowest : UnpackedFloat.unpackExponent bits ≠ 0#11) :
    ∃ positive, UnpackedFloat.unpack Format.binary64 bits =
      .finite (.ofBitVec (UnpackedFloat.unpackSign bits))
        (1#1 ++ UnpackedFloat.unpackMantissa bits).toNat
        ((UnpackedFloat.unpackExponent bits).toNat - 1075) positive := by
  delta UnpackedFloat.unpack
  dsimp only
  rw [if_neg notHighest, if_neg notLowest]
  exact ⟨_, rfl⟩

/-- With the lowest exponent it is read as its digits stand. -/
theorem unpack_of_small {bits : BitVec Format.binary64.numBits}
    (lowest : UnpackedFloat.unpackExponent bits = 0#11)
    (nonzero : UnpackedFloat.unpackMantissa bits ≠ 0#52) :
    ∃ positive, UnpackedFloat.unpack Format.binary64 bits =
      .finite (.ofBitVec (UnpackedFloat.unpackSign bits))
        (UnpackedFloat.unpackMantissa bits).toNat (-1074) positive := by
  have notHighest : UnpackedFloat.unpackExponent bits ≠ -1#11 := by
    rw [lowest]
    decide
  have raised : (UnpackedFloat.unpackExponent bits).toNat = 0 := congrArg BitVec.toNat lowest
  delta UnpackedFloat.unpack
  dsimp only
  rw [if_neg notHighest, if_pos lowest, dif_neg nonzero, raised]
  exact ⟨_, rfl⟩

/-- Digits with the leading bit in front of them. -/
theorem unpack_leading (sign : UnpackedFloat.Sign) {raised mantissa : Nat}
    (positive : 0 < mantissa) (leading : leadingBit ≤ mantissa)
    (bounded : mantissa < 2 * leadingBit) (notLowest : 0 < raised) (notHighest : raised < 2047) :
    UnpackedFloat.unpack Format.binary64 (UnpackedFloat.packComponents Format.binary64 sign
      (BitVec.ofNat 11 raised) (BitVec.ofNat 52 mantissa)) =
      .finite sign mantissa ((raised : Int) - 1075) positive := by
  have raisedStored : (BitVec.ofNat 11 raised).toNat = raised := by
    rw [BitVec.toNat_ofNat, Nat.mod_eq_of_lt (by omega)]
  have mantissaStored : (1#1 ++ BitVec.ofNat 52 mantissa).toNat = mantissa := by
    rw [toNat_leading_append, BitVec.toNat_ofNat]
    rw [leadingBit] at *
    omega
  have raisedBelow : BitVec.ofNat 11 raised ≠ -1#11 := by
    intro same
    have values := congrArg BitVec.toNat same
    rw [raisedStored] at values
    have highest : (-1#11).toNat = 2047 := rfl
    omega
  have raisedAbove : BitVec.ofNat 11 raised ≠ 0#11 := by
    intro same
    have values := congrArg BitVec.toNat same
    rw [raisedStored] at values
    have lowest : (0#11).toNat = 0 := rfl
    omega
  have exponentRead : UnpackedFloat.unpackExponent (UnpackedFloat.packComponents Format.binary64
      sign (BitVec.ofNat 11 raised) (BitVec.ofNat 52 mantissa)) = BitVec.ofNat 11 raised :=
    UnpackedFloat.unpackExponent_packComponents
  obtain ⟨_, read⟩ := unpack_of_leading (exponentRead.trans_ne raisedBelow)
    (exponentRead.trans_ne raisedAbove)
  rw [read, UnpackedFloat.finite.injEq, unpackSign_packComponents, exponentRead, raisedStored]
  refine ⟨rfl, ?_, rfl⟩
  exact (congrArg (fun digits : BitVec 52 => (1#1 ++ digits).toNat)
    UnpackedFloat.unpackMantissa_packComponents).trans mantissaStored

/-- Digits without a leading bit. -/
theorem unpack_small (sign : UnpackedFloat.Sign) {mantissa : Nat} (positive : 0 < mantissa)
    (short : mantissa < leadingBit) :
    UnpackedFloat.unpack Format.binary64 (UnpackedFloat.packComponents Format.binary64 sign 0#11
      (BitVec.ofNat 52 mantissa)) = .finite sign mantissa (-1074) positive := by
  have mantissaStored : (BitVec.ofNat 52 mantissa).toNat = mantissa := by
    rw [BitVec.toNat_ofNat]
    exact Nat.mod_eq_of_lt short
  have nonzero : BitVec.ofNat 52 mantissa ≠ 0#52 := by
    intro same
    have values := congrArg BitVec.toNat same
    rw [mantissaStored] at values
    exact positive.ne' values
  have exponentRead : UnpackedFloat.unpackExponent (UnpackedFloat.packComponents Format.binary64
      sign 0#11 (BitVec.ofNat 52 mantissa)) = 0#11 := UnpackedFloat.unpackExponent_packComponents
  obtain ⟨_, read⟩ := unpack_of_small exponentRead
    (UnpackedFloat.unpackMantissa_packComponents.trans_ne nonzero)
  rw [read, UnpackedFloat.finite.injEq, unpackSign_packComponents]
  refine ⟨rfl, ?_, rfl⟩
  exact (congrArg BitVec.toNat UnpackedFloat.unpackMantissa_packComponents).trans mantissaStored

/-- **What is stored is read back**, unless its exponent is too large. -/
theorem unpack_pack (sign : UnpackedFloat.Sign) {mantissa : Nat} {exponent : Int}
    (positive : 0 < mantissa) (canonical : IsCanonical mantissa exponent) :
    (Float.Model.pack (.finite sign mantissa exponent positive)).unpack =
      if exponent ≤ 971 then .finite sign mantissa exponent positive else .infinity sign := by
  have least := canonical.least
  obtain ⟨raised, rfl⟩ : ∃ raised : Nat, exponent = raised - 1075 :=
    ⟨(exponent + 1075).toNat, by omega⟩
  have stored : ((raised : Int) - 1075 + Format.binary64.exponentBias +
      Format.binary64.mantissaBitsWithoutImplicit).toNat = raised := by
    change ((raised : Int) - 1075 + (1023 : Nat) + (52 : Nat)).toNat = raised
    omega
  have whole : Format.binary64.mantissaBits = 53 := rfl
  delta Float.Model.unpack Float.Model.pack UnpackedFloat.pack
  dsimp only
  rw [stored, whole]
  by_cases fits : (raised : Int) - 1075 ≤ 971
  · rw [if_pos fits, if_neg (by change ¬ 2048 ≤ raised + 1; omega)]
    by_cases leading : leadingBit ≤ mantissa
    · have size : mantissa.log2 = 52 :=
        (Nat.log2_eq_iff positive.ne').mpr ⟨leading, canonical.bounded⟩
      rw [if_pos (by rw [size])]
      exact unpack_leading sign positive leading canonical.bounded (by omega) (by omega)
    · obtain rfl : raised = 1 := by
        have lowest := canonical.leading.resolve_left leading
        omega
      have size : mantissa.log2 < 52 := (Nat.log2_lt positive.ne').mpr (not_le.mp leading)
      rw [if_neg (by omega)]
      exact unpack_small sign positive (not_le.mp leading)
  · rw [if_neg fits, if_pos (by change 2048 ≤ raised + 1; omega)]
    cases sign <;> rfl

/-! ## Overflow -/

/-- The least number that is too large for a double, `2 ^ 1024`. -/
def overflow : ℚ :=
  leadingBit * (2 : ℚ) ^ (972 : Int)

theorem overflow_pos : 0 < overflow :=
  mul_pos (by norm_num [leadingBit]) (zpow_pos (by norm_num) _)

/-- A number, or the end of the order that it is too close to. -/
def clip (number : ℚ) : WithBotTop ℚ :=
  if overflow ≤ number then ⊤ else if number ≤ -overflow then ⊥ else (number : WithBotTop ℚ)

theorem clip_of_abs_lt {number : ℚ} (small : |number| < overflow) :
    clip number = (number : WithBotTop ℚ) := by
  obtain ⟨above, below⟩ := abs_lt.mp small
  rw [clip, if_neg below.not_ge, if_neg above.not_ge]

theorem clip_signed (sign : UnpackedFloat.Sign) {number : ℚ} (large : overflow ≤ number) :
    clip (signed sign number) = ending sign := by
  cases sign with
  | positive => exact if_pos large
  | negative =>
      have positive := overflow_pos
      rw [signed, clip, if_neg (by linarith), if_pos (neg_le_neg large)]
      rfl

/-- Clipping keeps the order. -/
theorem clip_mono {number other : ℚ} (ordered : number ≤ other) : clip number ≤ clip other := by
  unfold clip
  by_cases large : overflow ≤ other
  · rw [if_pos large]
    exact le_top
  · have small : ¬ overflow ≤ number := fun reached => large (reached.trans ordered)
    rw [if_neg large, if_neg small]
    by_cases least : number ≤ -overflow
    · rw [if_pos least]
      exact bot_le
    · have above : ¬ other ≤ -overflow := fun reached => least (ordered.trans reached)
      rw [if_neg least, if_neg above]
      exact WithBotTop.coe_le_coe.mpr ordered

theorem magnitude_nonneg (mantissa : Nat) (exponent : Int) : 0 ≤ magnitude mantissa exponent :=
  mul_nonneg (Nat.cast_nonneg _) (zpow_pos (by norm_num) exponent).le

theorem abs_signed (sign : UnpackedFloat.Sign) {number : ℚ} (atLeast : 0 ≤ number) :
    |signed sign number| = number := by
  cases sign with
  | positive => exact abs_of_nonneg atLeast
  | negative => rw [signed, abs_neg, abs_of_nonneg atLeast]

theorem magnitude_lt_overflow {mantissa : Nat} {exponent : Int}
    (canonical : IsCanonical mantissa exponent) (fits : exponent ≤ 971) :
    magnitude mantissa exponent < overflow :=
  calc magnitude mantissa exponent < (2 * leadingBit : Nat) * (2 : ℚ) ^ exponent :=
        mul_lt_mul_of_pos_right (Nat.cast_lt.mpr canonical.bounded) (zpow_pos (by norm_num) _)
    _ ≤ (2 * leadingBit : Nat) * (2 : ℚ) ^ (971 : Int) :=
        mul_le_mul_of_nonneg_left (zpow_le_zpow_right₀ (by norm_num) fits) (Nat.cast_nonneg _)
    _ = overflow := by
        rw [Nat.cast_mul]
        exact double_leadingBit 971

theorem overflow_le_magnitude {mantissa : Nat} {exponent : Int}
    (canonical : IsCanonical mantissa exponent) (large : 972 ≤ exponent) :
    overflow ≤ magnitude mantissa exponent := by
  have leading : leadingBit ≤ mantissa := canonical.leading.resolve_right (by omega)
  calc overflow ≤ leadingBit * (2 : ℚ) ^ exponent :=
        mul_le_mul_of_nonneg_left (zpow_le_zpow_right₀ (by norm_num) large) (Nat.cast_nonneg _)
    _ ≤ magnitude mantissa exponent :=
        mul_le_mul_of_nonneg_right (Nat.cast_le.mpr leading) (zpow_pos (by norm_num) _).le

/-- **The value of what is stored.** -/
theorem extendedValue?_pack (sign : UnpackedFloat.Sign) {mantissa : Nat} {exponent : Int}
    (positive : 0 < mantissa) (canonical : IsCanonical mantissa exponent) :
    extendedValue? (.ofModel (Float.Model.pack (.finite sign mantissa exponent positive))) =
      some (clip (signed sign (magnitude mantissa exponent))) := by
  have stored := unpack_pack sign positive canonical
  by_cases fits : exponent ≤ 971
  · rw [if_pos fits] at stored
    have isValue : exactValue?
        (.ofModel (Float.Model.pack (.finite sign mantissa exponent positive))) =
          some (signed sign (magnitude mantissa exponent)) := exactValue?_of_finite stored
    rw [extendedValue?_of_exact isValue, clip_of_abs_lt]
    rw [abs_signed sign (magnitude_nonneg mantissa exponent)]
    exact magnitude_lt_overflow canonical fits
  · rw [if_neg fits] at stored
    have isValue : extendedValue?
        (.ofModel (Float.Model.pack (.finite sign mantissa exponent positive))) =
          some (ending sign) := extendedValue?_of_infinity stored
    rw [isValue, clip_signed]
    exact overflow_le_magnitude canonical (by omega)

theorem extendedValue?_pack_zero (sign : UnpackedFloat.Sign) :
    extendedValue? (.ofModel (Float.Model.pack (.zero sign))) = some (clip 0) := by
  have isValue : exactValue? (.ofModel (Float.Model.pack (.zero sign))) = some 0 := by
    cases sign <;> rfl
  rw [extendedValue?_of_exact isValue, clip_of_abs_lt]
  rw [abs_zero]
  exact overflow_pos

/-- The exponents of doubles end at `971`. -/
theorem exponent_le_of_unpack {value : Float} {sign : UnpackedFloat.Sign} {mantissa : Nat}
    {exponent : Int} {positive : 0 < mantissa}
    (kind : value.toModel.unpack = .finite sign mantissa exponent positive) : exponent ≤ 971 := by
  delta Float.Model.unpack UnpackedFloat.unpack at kind
  dsimp only at kind
  have bias : ((Format.binary64.exponentBias : Nat) : Int) = 1023 := rfl
  have bits : ((Format.binary64.mantissaBitsWithoutImplicit : Nat) : Int) = 52 := rfl
  rw [bias, bits] at kind
  generalize @UnpackedFloat.unpackExponent Format.binary64 _ = raised at kind
  by_cases highest : raised = -1#11
  · rw [if_pos highest, ite_eq_iff] at kind
    rcases kind with ⟨_, kind⟩ | ⟨_, kind⟩ <;> cases kind
  rw [if_neg highest] at kind
  have below : raised.toNat < 2047 :=
    lt_of_le_of_ne (Nat.le_of_lt_succ raised.isLt) fun same =>
      highest (BitVec.eq_of_toNat_eq same)
  by_cases lowest : raised = 0#11
  · rw [if_pos lowest, dite_eq_iff] at kind
    rcases kind with ⟨_, kind⟩ | ⟨_, kind⟩
    · cases kind
    · obtain ⟨_, _, rfl⟩ := UnpackedFloat.finite.inj kind
      have zero : raised.toNat = 0 := congrArg BitVec.toNat lowest
      rw [zero]
      decide
  · rw [if_neg lowest] at kind
    obtain ⟨_, _, rfl⟩ := UnpackedFloat.finite.inj kind
    omega

/-- No finite double is clipped. -/
theorem clip_of_exactValue? {value : Float} {number : ℚ}
    (isValue : exactValue? value = some number) : clip number = (number : WithBotTop ℚ) := by
  refine clip_of_abs_lt ?_
  unfold exactValue? at isValue
  cases kind : value.toModel.unpack with
  | notANumber | infinity =>
      rw [kind] at isValue
      exact nomatch isValue
  | zero sign =>
      rw [kind] at isValue
      obtain rfl := Option.some.inj isValue
      rw [abs_zero]
      exact overflow_pos
  | finite sign mantissa exponent positive =>
      rw [kind] at isValue
      obtain rfl := Option.some.inj isValue
      rw [abs_signed sign (magnitude_nonneg mantissa exponent)]
      exact magnitude_lt_overflow (isCanonical_of_unpack kind) (exponent_le_of_unpack kind)

end MainsCharts.Numeral
