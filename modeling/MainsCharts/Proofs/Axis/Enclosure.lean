import MainsCharts.Proofs.Axis.Margin

/-!
# Detected limits

A plan from bounds encloses them (`Encloses`): both of them with a margin that may vanish or be
infinite but never points inwards, or the greatest value above a floor that stays where it is; and
a floor with no value above it is the only limit.

Bounds that a report gives are finite and in order, so with a finite floor no plan has an end that
is not a number, and no fixed range is empty (`fromBounds_encloses`).  Only the order of rounded
numbers is used for this, and no plan is computed.
-/

namespace MainsCharts.AxisPlan

set_option autoImplicit false

open Numeral Float.Model

variable {bounds : ValueBounds} {floor : Option Float}

/-- **What a plan encloses.** -/
structure Encloses (bounds : ValueBounds) (floor : Option Float) (plan : AxisPlan) : Prop where
  /-- Without a floor both bounds lie between the limits. -/
  between : ∀ least greatest, floor = none → bounds.least = some least →
    bounds.greatest = some greatest → ∃ lower upper, plan = .rigid lower upper ∧
      lower ≤ least ∧ least < greatest ∧ greatest ≤ upper
  /-- A floor below the greatest value is the lower limit. -/
  above : ∀ base greatest, floor = some base → bounds.greatest = some greatest →
    base < greatest → ∃ upper, plan = .rigid base upper ∧ greatest ≤ upper
  /-- A floor with no value above it is the only limit. -/
  alone : ∀ base, floor = some base →
    (∀ greatest, bounds.greatest = some greatest → greatest ≤ base) →
    plan = .partly (some base) none
  /-- Limits are in order. -/
  ordered : ∀ lower upper, plan = .rigid lower upper → lower < upper
  /-- Limits are numbers. -/
  numbers : ∀ value, plan.lower? = some value ∨ plan.upper? = some value → value.isNaN = false

/-! ## Values of limits -/

/-- Limits around a base and a greater value, with a margin above and perhaps one below. -/
theorem exists_limits {base greatest : Float} {low high : ℚ} (isBase : exactValue? base = some low)
    (isGreatest : exactValue? greatest = some high) (ordered : base < greatest) (floored : Bool) :
    ∃ least most,
      extendedValue? (if floored then base else base - axisMargin base greatest) = some least ∧
      least ≤ (low : WithBotTop ℚ) ∧
      extendedValue? (greatest + axisMargin base greatest) = some most ∧
      (high : WithBotTop ℚ) ≤ most ∧ least < most := by
  have apart : low < high := (lt_iff isBase isGreatest).mp ordered
  obtain ⟨least, most, isLeast, below, isMost, above⟩ :=
    exists_widened isBase isGreatest apart.le
  have between : (low : WithBotTop ℚ) < most := (WithBotTop.coe_lt_coe.mpr apart).trans_le above
  cases floored with
  | true => exact ⟨_, most, extendedValue?_of_exact isBase, le_rfl, isMost, above, between⟩
  | false => exact ⟨least, most, isLeast, below, isMost, above, below.trans_lt between⟩

/-! ## Enclosure -/

/-- A rigid plan around a base and a greater value. -/
theorem encloses_rigid {base greatest : Float} {low high : ℚ}
    (isBase : floor.or bounds.least = some base) (isGreatest : bounds.greatest = some greatest)
    (isLow : exactValue? base = some low) (isHigh : exactValue? greatest = some high)
    (ordered : base < greatest) :
    Encloses bounds floor
      (.rigid (if floor.isSome then base else base - axisMargin base greatest)
        (greatest + axisMargin base greatest)) := by
  obtain ⟨least, most, isLeast, below, isMost, above, between⟩ :=
    exists_limits isLow isHigh ordered floor.isSome
  have covered := (le_iff_extended (extendedValue?_of_exact isHigh) isMost).mpr above
  constructor
  case between =>
    rintro _ _ rfl given givenToo
    obtain rfl := Option.some.inj (isBase.symm.trans given)
    obtain rfl := Option.some.inj (isGreatest.symm.trans givenToo)
    exact ⟨_, _, rfl, (le_iff_extended isLeast (extendedValue?_of_exact isLow)).mpr below,
      ordered, covered⟩
  case above =>
    rintro _ _ rfl givenToo _
    obtain rfl := Option.some.inj isBase
    obtain rfl := Option.some.inj (isGreatest.symm.trans givenToo)
    exact ⟨_, rfl, covered⟩
  case alone =>
    rintro _ rfl nothingAbove
    obtain rfl := Option.some.inj isBase
    exact absurd ((le_iff isHigh isLow).mp (nothingAbove greatest isGreatest))
      (not_le.mpr ((lt_iff isLow isHigh).mp ordered))
  case ordered =>
    rintro _ _ ⟨⟩
    exact (lt_iff_extended isLeast isMost).mpr between
  case numbers =>
    rintro _ (⟨⟨⟩⟩ | ⟨⟨⟩⟩)
    · exact isNaN_eq_false isLeast
    · exact isNaN_eq_false isMost

/-- A plan that is fixed at a base with no value above it. -/
theorem encloses_base (proper : bounds.IsProper) {base : Float} {low : ℚ}
    (isBase : floor.or bounds.least = some base) (isLow : exactValue? base = some low)
    (unordered : ∀ greatest, bounds.greatest = some greatest → ¬ base < greatest) :
    Encloses bounds floor (.partly (some base) none) := by
  constructor
  case between =>
    rintro _ _ rfl given givenToo
    obtain rfl := Option.some.inj (isBase.symm.trans given)
    exact absurd (proper.ordered _ _ given givenToo) (unordered _ givenToo)
  case above =>
    rintro _ _ rfl givenToo ordered
    obtain rfl := Option.some.inj isBase
    exact absurd ordered (unordered _ givenToo)
  case alone =>
    rintro _ rfl _
    obtain rfl := Option.some.inj isBase
    rfl
  case ordered => exact nofun
  case numbers =>
    rintro _ (⟨⟨⟩⟩ | ⟨⟨⟩⟩)
    exact isNaN_eq_false (extendedValue?_of_exact isLow)

/-- Without a base there is nothing to enclose, and a plan that is not rigid need only have limits
that are numbers. -/
theorem encloses_of_baseless {plan : AxisPlan} (baseless : floor.or bounds.least = none)
    (flexible : ∀ lower upper, plan ≠ .rigid lower upper)
    (numbers : ∀ value, plan.lower? = some value ∨ plan.upper? = some value →
      value.isNaN = false) :
    Encloses bounds floor plan := by
  obtain ⟨unfloored, unbounded⟩ := Option.or_eq_none_iff.mp baseless
  exact
    { between := fun _ _ _ given => nomatch unbounded.symm.trans given
      above := fun _ _ given => nomatch unfloored.symm.trans given
      alone := fun _ given => nomatch unfloored.symm.trans given
      ordered := fun lower upper isRigid => absurd isRigid (flexible lower upper)
      numbers := numbers }

/-- **A plan from proper bounds** and a finite floor encloses them. -/
theorem encloses_fromBounds (proper : bounds.IsProper)
    (finite : ∀ base, floor = some base → ∃ number, exactValue? base = some number) :
    Encloses bounds floor (fromBounds bounds floor) := by
  rcases fromBounds_cases bounds floor with ⟨base, greatest, isBase, isGreatest, ordered, plan⟩ |
    ⟨base, isBase, unordered, plan⟩ | ⟨greatest, baseless, isGreatest, plan⟩ |
    ⟨baseless, _, plan⟩
  · obtain ⟨low, isLow⟩ := exists_exactValue?_base proper finite isBase
    obtain ⟨high, isHigh⟩ := proper.finite_greatest greatest isGreatest
    rw [plan]
    exact encloses_rigid isBase isGreatest isLow isHigh ordered
  · obtain ⟨low, isLow⟩ := exists_exactValue?_base proper finite isBase
    rw [plan]
    exact encloses_base proper isBase isLow unordered
  · obtain ⟨high, isHigh⟩ := proper.finite_greatest greatest isGreatest
    rw [plan]
    refine encloses_of_baseless baseless nofun ?_
    rintro _ (⟨⟨⟩⟩ | ⟨⟨⟩⟩)
    exact isNaN_eq_false (extendedValue?_of_exact isHigh)
  · rw [plan]
    refine encloses_of_baseless baseless nofun ?_
    rintro _ (⟨⟨⟩⟩ | ⟨⟨⟩⟩)

/-- **Detected limits enclose what was detected.** -/
theorem fromBounds_encloses {report : List UInt8}
    (read : ValueBounds.ofReport report = .ok bounds)
    (finite : ∀ base, floor = some base → base.isFinite = true) :
    Encloses bounds floor (fromBounds bounds floor) :=
  encloses_fromBounds (ValueBounds.isProper_of_ofReport read)
    fun base given => isFinite_iff.mp (finite base given)

/-- Neighbouring doubles, whose margin vanishes: alone, with a floor below them, and with one above
them. -/
theorem fromBounds_encloses_neighbours :
    ValueBounds.ofReport (Text.Utf8.encode "MIN:50\nMAX:50.00000000000001\n".toList) =
      .ok ⟨some 50.0, some 50.00000000000001⟩ ∧
    (∃ lower upper, fromBounds ⟨some 50.0, some 50.00000000000001⟩ none = .rigid lower upper ∧
      lower ≤ 50.0 ∧ (50.0 : Float) < 50.00000000000001 ∧ 50.00000000000001 ≤ upper) ∧
    (∃ upper, fromBounds ⟨some 50.0, some 50.00000000000001⟩ (some 0.0) = .rigid 0.0 upper ∧
      50.00000000000001 ≤ upper) ∧
    fromBounds ⟨some 50.0, some 50.00000000000001⟩ (some 60.0) = .partly (some 60.0) none := by
  have read : ValueBounds.ofReport (Text.Utf8.encode "MIN:50\nMAX:50.00000000000001\n".toList) =
      .ok ⟨some 50.0, some 50.00000000000001⟩ := by rfl
  have unfloored : ∀ base : Float, none = some base → base.isFinite = true := nofun
  have finite {floor : Float} (isFinite : floor.isFinite = true) :
      ∀ base, some floor = some base → base.isFinite = true := by
    rintro _ ⟨⟩
    exact isFinite
  refine ⟨read, (fromBounds_encloses read unfloored).between _ _ rfl rfl rfl,
    (fromBounds_encloses read (finite rfl)).above _ _ rfl rfl (by decide),
    (fromBounds_encloses read (finite rfl)).alone _ rfl ?_⟩
  rintro _ ⟨⟩
  decide

end MainsCharts.AxisPlan
