import Mathlib.Order.WithBotTop
import MainsCharts.Proofs.Numeral.Value

/-!
# Doubles with infinities

A double that is a number stands for a rational number or for one of the two ends of the order
(`extendedValue?`), and doubles that are numbers are compared by these values
(`le_iff_extended`, `lt_iff_extended`).
-/

namespace MainsCharts.Numeral

set_option autoImplicit false

open Float.Model

/-! ## Values -/

/-- The value of an infinity. -/
def ending : UnpackedFloat.Sign → WithBotTop ℚ
  | .positive => ⊤
  | .negative => ⊥

/-- The value of a double, when it is a number. -/
def extendedValue? (value : Float) : Option (WithBotTop ℚ) :=
  match value.toModel.unpack with
  | .infinity sign => some (ending sign)
  | _ => (exactValue? value).map WithBotTop.coe

theorem extendedValue?_of_infinity {value : Float} {sign : UnpackedFloat.Sign}
    (infinite : value.toModel.unpack = .infinity sign) :
    extendedValue? value = some (ending sign) := by
  rw [extendedValue?, infinite]

theorem extendedValue?_of_missing {value : Float}
    (missing : value.toModel.unpack = .notANumber) : extendedValue? value = none := by
  rw [extendedValue?, missing, exactValue?, missing]
  rfl

theorem extendedValue?_of_exact {value : Float} {number : ℚ}
    (isValue : exactValue? value = some number) :
    extendedValue? value = some (number : WithBotTop ℚ) := by
  unfold extendedValue?
  cases kind : value.toModel.unpack with
  | infinity =>
      rw [exactValue?, kind] at isValue
      cases isValue
  | notANumber | zero | finite =>
      rw [isValue]
      rfl

/-- A double is no number, or infinite, or finite. -/
theorem kind_cases (value : Float) :
    value.toModel.unpack = .notANumber ∨ (∃ sign, value.toModel.unpack = .infinity sign) ∨
      ∃ number, exactValue? value = some number := by
  unfold exactValue?
  cases value.toModel.unpack with
  | notANumber => exact .inl rfl
  | infinity sign => exact .inr (.inl ⟨sign, rfl⟩)
  | zero | finite => exact .inr (.inr ⟨_, rfl⟩)

/-- A double that is a number, as its value tells. -/
theorem extended_cases {value : Float} {size : WithBotTop ℚ}
    (isValue : extendedValue? value = some size) :
    (∃ sign, value.toModel.unpack = .infinity sign ∧ size = ending sign) ∨
      ∃ number : ℚ, exactValue? value = some number ∧ size = number := by
  rcases kind_cases value with missing | ⟨sign, infinite⟩ | ⟨number, isNumber⟩
  · rw [extendedValue?_of_missing missing] at isValue
    exact nomatch isValue
  · rw [extendedValue?_of_infinity infinite] at isValue
    exact .inl ⟨sign, infinite, (Option.some.inj isValue).symm⟩
  · rw [extendedValue?_of_exact isNumber] at isValue
    exact .inr ⟨number, isNumber, (Option.some.inj isValue).symm⟩

theorem unpack_of_top {value : Float} (isTop : extendedValue? value = some ⊤) :
    value.toModel.unpack = .infinity .positive := by
  rcases extended_cases isTop with ⟨_ | _, infinite, same⟩ | ⟨_, _, same⟩
  · exact nomatch same
  · exact infinite
  · exact nomatch same

/-- A finite double as it is read. -/
theorem finite_cases {value : Float} {number : ℚ} (isValue : exactValue? value = some number) :
    (∃ sign, value.toModel.unpack = .zero sign ∧ number = 0) ∨
      ∃ sign mantissa exponent positive,
        value.toModel.unpack = .finite sign mantissa exponent positive ∧
          number = signed sign (magnitude mantissa exponent) := by
  unfold exactValue? at isValue
  cases kind : value.toModel.unpack with
  | notANumber | infinity =>
      rw [kind] at isValue
      exact nomatch isValue
  | zero sign =>
      rw [kind] at isValue
      exact .inl ⟨sign, rfl, (Option.some.inj isValue).symm⟩
  | finite sign mantissa exponent positive =>
      rw [kind] at isValue
      exact .inr ⟨sign, mantissa, exponent, positive, rfl, (Option.some.inj isValue).symm⟩

/-- **The finite doubles** are those that have an exact value. -/
theorem isFinite_iff {value : Float} :
    value.isFinite = true ↔ ∃ number, exactValue? value = some number := by
  have unfolded : value.isFinite = value.toModel.unpack.isFinite := rfl
  rw [unfolded]
  constructor
  · intro finite
    rcases kind_cases value with missing | ⟨sign, infinite⟩ | isNumber
    · rw [missing] at finite
      exact nomatch finite
    · rw [infinite] at finite
      exact nomatch finite
    · exact isNumber
  · rintro ⟨number, isNumber⟩
    rcases finite_cases isNumber with ⟨_, kind, _⟩ | ⟨_, _, _, _, kind, _⟩ <;> rw [kind] <;> rfl

/-! ## Order -/

theorem le_iff_of_unpack {first second : Float} :
    first ≤ second ↔ first.toModel.unpack.le second.toModel.unpack = true :=
  decide_eq_true_iff

/-- A finite double is compared with an infinity as its value is with the end of the order. -/
theorem le_infinity_iff {value : Float} {number : ℚ} (isNumber : exactValue? value = some number)
    (sign : UnpackedFloat.Sign) :
    ((UnpackedFloat.infinity sign).le value.toModel.unpack = true ↔
        ending sign ≤ (number : WithBotTop ℚ)) ∧
      (value.toModel.unpack.le (.infinity sign) = true ↔
        (number : WithBotTop ℚ) ≤ ending sign) := by
  cases sign with
  | positive =>
      have apart : ¬ (⊤ : WithBotTop ℚ) ≤ number := (WithBotTop.coe_ne_top number).lt_top.not_ge
      rcases finite_cases isNumber with ⟨_, kind, _⟩ | ⟨_, _, _, _, kind, _⟩ <;> rw [kind] <;>
        exact ⟨iff_of_false Bool.false_ne_true apart, iff_of_true rfl le_top⟩
  | negative =>
      have apart : ¬ (number : WithBotTop ℚ) ≤ ⊥ := (WithBotTop.coe_ne_bot number).bot_lt.not_ge
      rcases finite_cases isNumber with ⟨_, kind, _⟩ | ⟨_, _, _, _, kind, _⟩ <;> rw [kind] <;>
        exact ⟨iff_of_true rfl bot_le, iff_of_false Bool.false_ne_true apart⟩

/-- **The order of doubles** is that of their values. -/
theorem le_iff_extended {first second : Float} {value other : WithBotTop ℚ}
    (isValue : extendedValue? first = some value) (isOther : extendedValue? second = some other) :
    first ≤ second ↔ value ≤ other := by
  rcases extended_cases isValue with ⟨sign, infinite, rfl⟩ | ⟨number, isNumber, rfl⟩
  · rw [le_iff_of_unpack, infinite]
    rcases extended_cases isOther with ⟨signOther, infiniteOther, rfl⟩ | ⟨other, isNumber, rfl⟩
    · rw [infiniteOther]
      cases sign <;> cases signOther <;> decide
    · exact (le_infinity_iff isNumber sign).1
  · rcases extended_cases isOther with ⟨signOther, infinite, rfl⟩ | ⟨other, isNumberOther, rfl⟩
    · rw [le_iff_of_unpack, infinite]
      exact (le_infinity_iff isNumber signOther).2
    · exact (le_iff isNumber isNumberOther).trans WithBotTop.coe_le_coe.symm

/-- Comparing the other way around. -/
theorem compare_swap (first second : UnpackedFloat) :
    second.compare first = (first.compare second).map Ordering.swap := by
  cases first with
  | notANumber => cases second <;> rfl
  | infinity sign =>
      cases second with
      | infinity other => cases sign <;> cases other <;> rfl
      | notANumber | zero | finite => cases sign <;> rfl
  | zero sign =>
      cases second with
      | infinity other | finite other => cases other <;> rfl
      | notANumber | zero => rfl
  | finite sign mantissa exponent positive =>
      cases second with
      | infinity other => cases other <;> rfl
      | notANumber => rfl
      | zero => cases sign <;> rfl
      | finite other mantissaOther exponentOther positiveOther =>
          have swapped : ((compare exponent exponentOther).then
              (compare mantissa mantissaOther)).swap =
              (compare exponentOther exponent).then (compare mantissaOther mantissa) := by
            rw [Ordering.swap_then, Int.compare_swap, Nat.compare_swap]
          cases sign <;> cases other
          · exact congrArg some (congrArg Ordering.swap swapped.symm)
          · rfl
          · rfl
          · exact congrArg some swapped.symm

theorem compare_notANumber (value : UnpackedFloat) : value.compare .notANumber = none := by
  rw [compare_swap .notANumber value]
  rfl

theorem ne_notANumber_of_extendedValue? {value : Float} {size : WithBotTop ℚ}
    (isValue : extendedValue? value = some size) : value.toModel.unpack ≠ .notANumber := by
  intro missing
  rw [extendedValue?_of_missing missing] at isValue
  exact nomatch isValue

/-- A double with a value is a number. -/
theorem isNaN_eq_false {value : Float} {size : WithBotTop ℚ}
    (isValue : extendedValue? value = some size) : value.isNaN = false := by
  have unfolded : value.isNaN = value.toModel.unpack.isNaN := rfl
  rw [unfolded]
  cases kind : value.toModel.unpack with
  | notANumber => exact absurd kind (ne_notANumber_of_extendedValue? isValue)
  | infinity | zero | finite => rfl

/-- Of two numbers it can be told how they are ordered. -/
theorem exists_compare {first second : UnpackedFloat} (isNumber : first ≠ .notANumber)
    (isNumberToo : second ≠ .notANumber) : ∃ order, first.compare second = some order := by
  cases first with
  | notANumber => exact absurd rfl isNumber
  | infinity sign =>
      cases second with
      | notANumber => exact absurd rfl isNumberToo
      | infinity | zero | finite => cases sign <;> exact ⟨_, rfl⟩
  | zero =>
      cases second with
      | notANumber => exact absurd rfl isNumberToo
      | zero => exact ⟨_, rfl⟩
      | infinity other | finite other => cases other <;> exact ⟨_, rfl⟩
  | finite sign =>
      cases second with
      | notANumber => exact absurd rfl isNumberToo
      | zero => cases sign <;> exact ⟨_, rfl⟩
      | infinity other | finite other => cases sign <;> cases other <;> exact ⟨_, rfl⟩

/-- **The strict order of doubles** is that of their values. -/
theorem lt_iff_extended {first second : Float} {value other : WithBotTop ℚ}
    (isValue : extendedValue? first = some value) (isOther : extendedValue? second = some other) :
    first < second ↔ value < other := by
  have unfolded : first < second ↔
      first.toModel.unpack.lt second.toModel.unpack = true := decide_eq_true_iff
  obtain ⟨order, compared⟩ := exists_compare (ne_notANumber_of_extendedValue? isValue)
    (ne_notANumber_of_extendedValue? isOther)
  rw [← not_le, ← le_iff_extended isOther isValue, unfolded, le_iff_of_unpack, UnpackedFloat.lt,
    UnpackedFloat.le, compare_swap first.toModel.unpack, compared]
  cases order <;> decide

/-- **Doubles that are in order** are numbers. -/
theorem exists_of_le {first second : Float} (ordered : first ≤ second) :
    ∃ size further, extendedValue? first = some size ∧ extendedValue? second = some further ∧
      size ≤ further := by
  have isNumber {value : Float} (present : value.toModel.unpack ≠ .notANumber) :
      ∃ size, extendedValue? value = some size := by
    rcases kind_cases value with missing | ⟨sign, infinite⟩ | ⟨number, isNumber⟩
    · exact absurd missing present
    · exact ⟨_, extendedValue?_of_infinity infinite⟩
    · exact ⟨_, extendedValue?_of_exact isNumber⟩
  have compared := le_iff_of_unpack.mp ordered
  rw [UnpackedFloat.le] at compared
  obtain ⟨size, isSize⟩ : ∃ size, extendedValue? first = some size := by
    refine isNumber fun missing => ?_
    rw [missing] at compared
    exact Bool.false_ne_true compared
  obtain ⟨further, isFurther⟩ : ∃ further, extendedValue? second = some further := by
    refine isNumber fun missing => ?_
    rw [missing, compare_notANumber] at compared
    exact Bool.false_ne_true compared
  exact ⟨size, further, isSize, isFurther, (le_iff_extended isSize isFurther).mp ordered⟩

/-- The strict order of finite doubles. -/
theorem lt_iff {first second : Float} {value other : ℚ} (isValue : exactValue? first = some value)
    (isOther : exactValue? second = some other) : first < second ↔ value < other :=
  (lt_iff_extended (extendedValue?_of_exact isValue) (extendedValue?_of_exact isOther)).trans
    WithBotTop.coe_lt_coe

end MainsCharts.Numeral
