import MainsCharts.Proofs.Axis.Ends

/-!
# Asking for limits again

Limits that are asked for one after another act as if they had been asked for at once: at each end
the last one counts, and asking for the same limits again changes nothing
(`withExplicit_withExplicit`, `withEach_eq`).  This holds of every plan, also of one that is fixed
at both ends without being rigid.

A plan that is made from bounds keeps one of its four forms however often limits are asked for
(`isShaped_withEach`).  Its arguments tell which ends are fixed and what their limits are
(`IsShaped.tellsEnds`), since no limit is written like an option.
-/

namespace MainsCharts.AxisPlan

set_option autoImplicit false

variable {lower upper further other : Option Float}

/-! ## Limits asked for twice -/

/-- A plan that is fixed at the given ends. -/
def fixedAt : Option Float → Option Float → AxisPlan
  | some lower, some upper => .rigid lower upper
  | lower, upper => .partly lower upper

theorem withExplicit_none (plan : AxisPlan) : plan.withExplicit none none = plan :=
  if_pos rfl

theorem withExplicit_eq_fixedAt (plan : AxisPlan) (asked : ¬ (lower = none ∧ upper = none)) :
    plan.withExplicit lower upper = fixedAt (lower.or plan.lower?) (upper.or plan.upper?) := by
  have notBoth : ¬ (lower.isNone && upper.isNone) = true := by
    rw [Bool.and_eq_true, Option.isNone_iff_eq_none, Option.isNone_iff_eq_none]
    exact asked
  rw [withExplicit, if_neg notBoth]
  rfl

/-- **Asking twice is asking once**, for the later limit at each end, or else the earlier one. -/
theorem withExplicit_withExplicit (plan : AxisPlan) (lower upper further other : Option Float) :
    (plan.withExplicit lower upper).withExplicit further other =
      plan.withExplicit (further.or lower) (other.or upper) := by
  by_cases nothing : further = none ∧ other = none
  · obtain ⟨rfl, rfl⟩ := nothing
    rw [withExplicit_none, Option.none_or, Option.none_or]
  · have asked : ¬ (further.or lower = none ∧ other.or upper = none) := by
      rw [Option.or_eq_none_iff, Option.or_eq_none_iff]
      exact fun neither => nothing ⟨neither.1.1, neither.2.1⟩
    obtain ⟨lowerIs, upperIs⟩ := ends_withExplicit plan lower upper
    rw [withExplicit_eq_fixedAt _ nothing, withExplicit_eq_fixedAt _ asked, lowerIs, upperIs,
      Option.or_assoc, Option.or_assoc]

theorem withExplicit_idem (plan : AxisPlan) (lower upper : Option Float) :
    (plan.withExplicit lower upper).withExplicit lower upper = plan.withExplicit lower upper := by
  rw [withExplicit_withExplicit, Option.or_self, Option.or_self]

/-! ## Limits asked for one after another -/

/-- A plan with limits that are asked for one after another, a lower and an upper one each time. -/
def withEach (plan : AxisPlan) (requests : List (Option Float × Option Float)) : AxisPlan :=
  requests.foldl (fun plan request => plan.withExplicit request.1 request.2) plan

/-- The last limit that is asked for at an end. -/
def lastAsked (limit : Option Float × Option Float → Option Float)
    (requests : List (Option Float × Option Float)) : Option Float :=
  requests.reverse.findSome? limit

theorem lastAsked_cons (limit : Option Float × Option Float → Option Float)
    (request : Option Float × Option Float) (requests : List (Option Float × Option Float)) :
    lastAsked limit (request :: requests) = (lastAsked limit requests).or (limit request) := by
  rw [lastAsked, List.reverse_cons, List.findSome?_append, List.findSome?_singleton]
  rfl

/-- **The last limit that is asked for counts**, at each end by itself. -/
theorem withEach_eq (plan : AxisPlan) (requests : List (Option Float × Option Float)) :
    plan.withEach requests =
      plan.withExplicit (lastAsked Prod.fst requests) (lastAsked Prod.snd requests) := by
  induction requests generalizing plan with
  | nil => exact (withExplicit_none plan).symm
  | cons request requests ih =>
      rw [lastAsked_cons, lastAsked_cons, ← withExplicit_withExplicit]
      exact ih (plan.withExplicit request.1 request.2)

theorem isShaped_withEach {plan : AxisPlan} (shaped : plan.IsShaped)
    (requests : List (Option Float × Option Float)) : (plan.withEach requests).IsShaped := by
  induction requests generalizing plan with
  | nil => exact shaped
  | cons request requests ih => exact ih (shaped.withExplicit request.1 request.2)

/-! ## Arguments -/

/-- The argument behind an option. -/
def argumentOf? (option : String) : List String → Option String
  | [] => none
  | argument :: rest => if argument = option then rest.head? else argumentOf? option rest

/-- That arguments tell one end of an axis.  When the end is fixed its option stands among them
once, with the text of the limit behind it, and otherwise it does not.  That the end is scaled is
said when only the other end is fixed. -/
structure TellsEnd (option scaled : String) (limit other : Option Float)
    (arguments : List String) : Prop where
  count_option : arguments.count option = if limit.isSome then 1 else 0
  argumentOf?_option : argumentOf? option arguments = limit.map limitText
  scaled_mem_iff : scaled ∈ arguments ↔ limit = none ∧ other.isSome = true

/-- That the arguments of a plan tell both of its ends. -/
structure TellsEnds (plan : AxisPlan) : Prop where
  lower : TellsEnd "--lower-limit" "--alt-autoscale-min" plan.lower? plan.upper? plan.arguments
  upper : TellsEnd "--upper-limit" "--alt-autoscale-max" plan.upper? plan.lower? plan.arguments
  rigid_mem_iff :
    "--rigid" ∈ plan.arguments ↔ plan.lower?.isSome = true ∨ plan.upper?.isSome = true

/-- **The arguments of a plan in one of its forms** tell both ends. -/
theorem IsShaped.tellsEnds {plan : AxisPlan} (shaped : plan.IsShaped) : plan.TellsEnds := by
  have unlikeLower := @limitText_ne_option "--lower-limit" (by decide)
  have unlikeUpper := @limitText_ne_option "--upper-limit" (by decide)
  have unlikeRigid value := (@limitText_ne_option "--rigid" (by decide) value).symm
  have unlikeLeast value := (@limitText_ne_option "--alt-autoscale-min" (by decide) value).symm
  have unlikeGreatest value := (@limitText_ne_option "--alt-autoscale-max" (by decide) value).symm
  cases shaped <;> refine ⟨⟨?_, ?_, ?_⟩, ⟨?_, ?_, ?_⟩, ?_⟩ <;>
    simp [arguments, limitArguments, argumentIf, lower?, upper?, argumentOf?, unlikeLower,
      unlikeUpper, unlikeRigid, unlikeLeast, unlikeGreatest]

/-- **Asking for limits of a plan** that is made from bounds leaves it in one of its forms, with
arguments that tell what is fixed.  Of the limits that are asked for the last one at each end
counts, whatever the plan. -/
theorem withEach_settles (bounds : ValueBounds) (floor : Option Float)
    (requests : List (Option Float × Option Float)) :
    ((fromBounds bounds floor).withEach requests).IsShaped ∧
    (∀ (plan : AxisPlan) (lower upper further other : Option Float),
      (plan.withExplicit lower upper).withExplicit further other =
        plan.withExplicit (further.or lower) (other.or upper)) ∧
    (∀ plan : AxisPlan, plan.withEach requests =
      plan.withExplicit (lastAsked Prod.fst requests) (lastAsked Prod.snd requests)) ∧
    (∀ (plan : AxisPlan) (lower upper : Option Float),
      (plan.withExplicit lower upper).withExplicit lower upper =
        plan.withExplicit lower upper) ∧
    ((fromBounds bounds floor).withEach requests).TellsEnds := by
  have shaped := isShaped_withEach (isShaped_fromBounds bounds floor) requests
  exact ⟨shaped, withExplicit_withExplicit, fun plan => withEach_eq plan requests,
    withExplicit_idem, shaped.tellsEnds⟩

end MainsCharts.AxisPlan
