import MainsCharts.Proofs.Axis.Margin

/-!
# The ends of the axis

Each end of the axis is fixed by the limit that is asked for, or else by the floor, or else by
the bounds of the values (`lowerEnd?`, `upperEnd?`).  The steps that make a plan treat both ends
together, but no end is lost or moved by what is known of the other (`ends_eq`), except that a
margin needs both bounds.
-/

namespace MainsCharts.AxisPlan

set_option autoImplicit false

variable {bounds : ValueBounds} {floor : Option Float}

/-- The lower end of an axis: the limit that is asked for, or the floor, or the least value, with
a margin below it when the greatest value is known. -/
def lowerEnd? (explicit floor : Option Float) (bounds : ValueBounds) : Option Float :=
  explicit.or <| floor.or <|
    match bounds.least, bounds.greatest with
    | some least, some greatest => some (least - axisMargin least greatest)
    | least, _ => least

/-- The upper end of an axis: the limit that is asked for, or the greatest value, with a margin
above it when there is a base that it lies above, and none when there is another base. -/
def upperEnd? (explicit floor : Option Float) (bounds : ValueBounds) : Option Float :=
  explicit.or <|
    match floor.or bounds.least, bounds.greatest with
    | some base, some greatest =>
        if base < greatest then some (greatest + axisMargin base greatest) else none
    | some _, none => none
    | none, greatest => greatest

/-- The flags of an axis with the given ends. -/
def flags : Option Float → Option Float → List String
  | some lower, some upper =>
      ["--lower-limit", limitText lower, "--upper-limit", limitText upper, "--rigid"]
  | some lower, none => ["--lower-limit", limitText lower, "--rigid", "--alt-autoscale-max"]
  | none, some upper => ["--upper-limit", limitText upper, "--rigid", "--alt-autoscale-min"]
  | none, none => []

theorem ends_fromBounds (proper : bounds.IsProper) :
    (fromBounds bounds floor).lower? = lowerEnd? none floor bounds ∧
      (fromBounds bounds floor).upper? = upperEnd? none floor bounds := by
  rcases bounds with ⟨least, greatest⟩
  cases floor with
  | some base =>
      cases greatest with
      | none => exact ⟨rfl, rfl⟩
      | some greatest =>
          simp only [fromBounds, lowerEnd?, upperEnd?, Option.some_or, Option.none_or]
          split <;> exact ⟨rfl, rfl⟩
  | none =>
      cases least with
      | none => cases greatest <;> exact ⟨rfl, rfl⟩
      | some least =>
          cases greatest with
          | none => exact ⟨rfl, rfl⟩
          | some greatest =>
              have ordered : least < greatest := proper.ordered least greatest rfl rfl
              simp only [fromBounds, lowerEnd?, upperEnd?, Option.none_or, if_pos ordered]
              exact ⟨rfl, rfl⟩

theorem ends_withExplicit (plan : AxisPlan) (lower upper : Option Float) :
    (plan.withExplicit lower upper).lower? = lower.or plan.lower? ∧
      (plan.withExplicit lower upper).upper? = upper.or plan.upper? := by
  unfold withExplicit
  split
  · rename_i neither
    rw [Bool.and_eq_true, Option.isNone_iff_eq_none, Option.isNone_iff_eq_none] at neither
    obtain ⟨rfl, rfl⟩ := neither
    exact ⟨rfl, rfl⟩
  · cases lower.or plan.lower? with
    | none => exact ⟨rfl, rfl⟩
    | some _ => cases upper.or plan.upper? <;> exact ⟨rfl, rfl⟩

/-- **The ends of the axis.**  What is asked for goes before the floor, and the floor before the
bounds, at each end by itself. -/
theorem ends_eq (proper : bounds.IsProper) (lower upper : Option Float) :
    ((fromBounds bounds floor).withExplicit lower upper).lower? = lowerEnd? lower floor bounds ∧
      ((fromBounds bounds floor).withExplicit lower upper).upper? =
        upperEnd? upper floor bounds := by
  obtain ⟨isLower, isUpper⟩ :
      (fromBounds bounds floor).lower? = lowerEnd? none floor bounds ∧
        (fromBounds bounds floor).upper? = upperEnd? none floor bounds := ends_fromBounds proper
  obtain ⟨lowerIs, upperIs⟩ := ends_withExplicit (fromBounds bounds floor) lower upper
  rw [lowerIs, upperIs, isLower, isUpper]
  exact ⟨rfl, rfl⟩

/-- An axis that is fixed at neither end is left to the renderer. -/
theorem ne_partly_none (lower upper : Option Float) :
    (fromBounds bounds floor).withExplicit lower upper ≠ .partly none none :=
  ((isShaped_fromBounds bounds floor).withExplicit lower upper).ne_partly_none

/-- The flags of a plan follow from its ends. -/
theorem arguments_eq_flags {plan : AxisPlan} (settled : plan ≠ .partly none none) :
    plan.arguments = flags plan.lower? plan.upper? := by
  cases plan with
  | rigid | automatic => rfl
  | partly lower upper =>
      cases lower <;> cases upper
      · exact absurd rfl settled
      · rfl
      · rfl
      · rfl

end MainsCharts.AxisPlan
