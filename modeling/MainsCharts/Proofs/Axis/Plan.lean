import MainsCharts.Axis.Plan
import MainsCharts.Proofs.Axis.Limit

/-!
# The arguments of an axis plan

A plan that is made from bounds has one of four forms (`fromBounds_cases`, `IsShaped`), and it
still has when limits are asked for (`IsShaped.withExplicit`).  So both ends of an axis are fixed by
rigid plans only, whether the bounds of the values or the caller fixes them
(`isSettled_withExplicit`).  The option of an end is among the arguments of
a plan exactly when that end is fixed, for no limit is written like an option.  So the options
of both ends stand together in one form only (`IsSettled.exists_of_mem_arguments`).
-/

namespace MainsCharts.AxisPlan

set_option autoImplicit false

open Numeral

/-! ## Forms -/

/-- **What a plan from bounds is**: rigid above a base that the greatest value lies above, fixed at
the base alone when there is one that it does not lie above, fixed at the greatest value when there
is none, and left to the renderer when nothing is known. -/
theorem fromBounds_cases (bounds : ValueBounds) (floor : Option Float) :
    (∃ base greatest, floor.or bounds.least = some base ∧ bounds.greatest = some greatest ∧
      base < greatest ∧ fromBounds bounds floor =
        .rigid (if floor.isSome then base else base - axisMargin base greatest)
          (greatest + axisMargin base greatest)) ∨
    (∃ base, floor.or bounds.least = some base ∧
      (∀ greatest, bounds.greatest = some greatest → ¬ base < greatest) ∧
      fromBounds bounds floor = .partly (some base) none) ∨
    (∃ greatest, floor.or bounds.least = none ∧ bounds.greatest = some greatest ∧
      fromBounds bounds floor = .partly none (some greatest)) ∨
    (floor.or bounds.least = none ∧ bounds.greatest = none ∧
      fromBounds bounds floor = .automatic) := by
  unfold fromBounds
  cases floor.or bounds.least with
  | none =>
      cases bounds.greatest with
      | none => exact .inr (.inr (.inr ⟨rfl, rfl, rfl⟩))
      | some greatest => exact .inr (.inr (.inl ⟨greatest, rfl, rfl, rfl⟩))
  | some base =>
      cases bounds.greatest with
      | none => exact .inr (.inl ⟨base, rfl, nofun, rfl⟩)
      | some greatest =>
          by_cases ordered : base < greatest
          · exact .inl ⟨base, greatest, rfl, rfl, ordered, if_pos ordered⟩
          · refine .inr (.inl ⟨base, rfl, ?_, if_neg ordered⟩)
            rintro _ ⟨⟩
            exact ordered

/-- Which forms plans have: rigid, fixed at one end alone, or left to the renderer. -/
inductive IsShaped : AxisPlan → Prop where
  | rigid (lower upper : Float) : IsShaped (.rigid lower upper)
  | lower (value : Float) : IsShaped (.partly (some value) none)
  | upper (value : Float) : IsShaped (.partly none (some value))
  | automatic : IsShaped .automatic

theorem isShaped_fromBounds (bounds : ValueBounds) (floor : Option Float) :
    (fromBounds bounds floor).IsShaped := by
  rcases fromBounds_cases bounds floor with ⟨_, _, _, _, _, plan⟩ | ⟨_, _, _, plan⟩ |
    ⟨_, _, _, plan⟩ | ⟨_, _, plan⟩ <;> rw [plan]
  · exact .rigid _ _
  · exact .lower _
  · exact .upper _
  · exact .automatic

/-- **Asking for limits** leaves a plan in one of its forms. -/
theorem IsShaped.withExplicit {plan : AxisPlan} (shaped : plan.IsShaped)
    (lower upper : Option Float) : (plan.withExplicit lower upper).IsShaped := by
  unfold AxisPlan.withExplicit
  split
  · exact shaped
  · rename_i either
    cases isLower : lower.or plan.lower? with
    | some least =>
        cases upper.or plan.upper? with
        | some greatest => exact .rigid least greatest
        | none => exact .lower least
    | none =>
        cases isUpper : upper.or plan.upper? with
        | some greatest => exact .upper greatest
        | none =>
            -- Neither end is fixed, so no limit was asked for.
            rw [(Option.or_eq_none_iff.mp isLower).1,
              (Option.or_eq_none_iff.mp isUpper).1] at either
            exact absurd rfl either

theorem IsShaped.ne_partly_none {plan : AxisPlan} (shaped : plan.IsShaped) :
    plan ≠ .partly none none := by
  cases shaped <;> exact nofun

/-! ## Rigid plans -/

/-- Whether the plan is rigid if both of its ends are fixed. -/
def IsSettled (plan : AxisPlan) : Prop :=
  ∀ lower upper, plan ≠ .partly (some lower) (some upper)

theorem isSettled_fromBounds (bounds : ValueBounds) (floor : Option Float) :
    (fromBounds bounds floor).IsSettled := by
  have shaped := isShaped_fromBounds bounds floor
  intro lower upper same
  rw [same] at shaped
  exact nomatch shaped

theorem isSettled_withExplicit {plan : AxisPlan} (settled : plan.IsSettled)
    (lower upper : Option Float) : (plan.withExplicit lower upper).IsSettled := by
  unfold withExplicit
  split
  · exact settled
  · intro least greatest
    cases lower.or plan.lower? with
    | none => exact nofun
    | some _ => cases upper.or plan.upper? <;> exact nofun

theorem IsSettled.exists_eq_rigid {plan : AxisPlan} (settled : plan.IsSettled)
    (lower : plan.lower?.isSome = true) (upper : plan.upper?.isSome = true) :
    ∃ least greatest, plan = .rigid least greatest := by
  obtain ⟨least, isLeast⟩ := Option.isSome_iff_exists.mp lower
  obtain ⟨greatest, isGreatest⟩ := Option.isSome_iff_exists.mp upper
  cases plan with
  | rigid least greatest => exact ⟨least, greatest, rfl⟩
  | partly =>
      obtain rfl : _ = some least := isLeast
      obtain rfl : _ = some greatest := isGreatest
      exact absurd rfl (settled least greatest)
  | automatic => exact nomatch isLeast

/-! ## Options -/

/-- No limit is written like an option. -/
theorem limitText_ne_option {option : String} (dashed : "--".toList <+: option.toList)
    (value : Float) : limitText value ≠ option := by
  have unnamed : ∀ name ∈ ["NaN", "inf", "-inf"], ¬ "--".toList <+: name.toList := by decide
  rintro rfl
  obtain ⟨rest, dashes⟩ := dashed
  rcases isPlain_or_mem_limitText value with numeral | name
  · rw [← dashes] at numeral
    exact nomatch numeral
  · exact unnamed _ name ⟨rest, dashes⟩

/-- An option is among the arguments of its own limit only. -/
theorem mem_limitArguments_iff {option : String}
    (isOption : option ∈ ["--lower-limit", "--upper-limit"]) (other : String)
    (limit : Option Float) :
    option ∈ limitArguments other limit ↔ option = other ∧ limit.isSome = true := by
  cases limit with
  | none => exact iff_of_false List.not_mem_nil fun fixed => Bool.false_ne_true fixed.2
  | some value =>
      have dashed : ∀ option ∈ ["--lower-limit", "--upper-limit"],
          "--".toList <+: option.toList := by
        decide
      have unlike := (limitText_ne_option (dashed option isOption) value).symm
      simp only [limitArguments, List.mem_cons, unlike, List.not_mem_nil, or_false,
        Option.isSome_some, and_true]

theorem not_mem_argumentIf {option argument : String} (other : option ≠ argument)
    (condition : Bool) : option ∉ argumentIf condition argument := by
  cases condition with
  | false => exact List.not_mem_nil
  | true => exact fun member => other (List.mem_singleton.mp member)

/-- **The option of an end** is given exactly when the end is fixed. -/
theorem mem_arguments_iff {option : String}
    (isOption : option ∈ ["--lower-limit", "--upper-limit"]) (plan : AxisPlan) :
    option ∈ plan.arguments ↔
      option = "--lower-limit" ∧ plan.lower?.isSome = true ∨
        option = "--upper-limit" ∧ plan.upper?.isSome = true := by
  have unlike : ∀ option ∈ ["--lower-limit", "--upper-limit"],
      option ≠ "--rigid" ∧ option ≠ "--alt-autoscale-min" ∧ option ≠ "--alt-autoscale-max" := by
    decide
  obtain ⟨rigid, least, greatest⟩ := unlike option isOption
  cases plan with
  | automatic =>
      refine iff_of_false List.not_mem_nil ?_
      rintro (⟨_, fixed⟩ | ⟨_, fixed⟩) <;> exact nomatch fixed
  | rigid | partly =>
      simp only [arguments, List.mem_append, mem_limitArguments_iff isOption,
        not_mem_argumentIf rigid, not_mem_argumentIf least, not_mem_argumentIf greatest, or_false]

/-- **The options of both ends** are given by rigid plans only. -/
theorem IsSettled.exists_of_mem_arguments {plan : AxisPlan} (settled : plan.IsSettled)
    (lower : "--lower-limit" ∈ plan.arguments) (upper : "--upper-limit" ∈ plan.arguments) :
    ∃ least greatest, plan = .rigid least greatest := by
  refine settled.exists_eq_rigid ?_ ?_
  · rcases (mem_arguments_iff (by decide) plan).mp lower with ⟨_, fixed⟩ | ⟨other, _⟩
    · exact fixed
    · exact absurd other (by decide)
  · rcases (mem_arguments_iff (by decide) plan).mp upper with ⟨other, _⟩ | ⟨_, fixed⟩
    · exact absurd other (by decide)
    · exact fixed

end MainsCharts.AxisPlan
