import MainsCharts.Numeral.FixedPoint
import MainsCharts.Report

/-!
# Plans for the vertical axis

A plan says which ends of the axis are fixed.  It starts from the bounds of the
values, widened by a hundredth of their distance so that no line runs along the
edge.  A floor takes the place of the least value and is not widened; when no
value lies above the floor, only the floor is fixed.  Limits that the caller asks
for replace those of the plan.
-/

namespace MainsCharts

set_option autoImplicit false

/-- The margin outside the values: a hundredth of their distance. -/
def axisMargin (least greatest : Float) : Float :=
  (greatest - least) / 100.0

/-- Which ends of the axis are fixed. -/
inductive AxisPlan where
  /-- Both ends are fixed. -/
  | rigid (lower upper : Float)
  /-- The ends that are given are fixed, and the others scaled one by one. -/
  | partly (lower upper : Option Float)
  /-- The axis is left to the renderer. -/
  | automatic

namespace AxisPlan

/-- The fixed lower end. -/
def lower? : AxisPlan → Option Float
  | rigid lower _ => some lower
  | partly lower _ => lower
  | automatic => none

/-- The fixed upper end. -/
def upper? : AxisPlan → Option Float
  | rigid _ upper => some upper
  | partly _ upper => upper
  | automatic => none

/-- A plan from the bounds of the values and a floor. -/
def fromBounds (bounds : ValueBounds) (floor : Option Float) : AxisPlan :=
  match floor.or bounds.least, bounds.greatest with
  | some least, some greatest =>
      if least < greatest then
        let margin := axisMargin least greatest
        rigid (if floor.isSome then least else least - margin) (greatest + margin)
      else partly (some least) none
  | none, none => automatic
  | least, greatest => partly least greatest

/-- A plan with the limits that the caller asks for. -/
def withExplicit (plan : AxisPlan) (lower upper : Option Float) : AxisPlan :=
  if lower.isNone && upper.isNone then plan
  else
    match lower.or plan.lower?, upper.or plan.upper? with
    | some least, some greatest => rigid least greatest
    | least, greatest => partly least greatest

/-- A limit as an option and its value. -/
def limitArguments (option : String) (limit : Option Float) : List String :=
  match limit with
  | some value => [option, limitText value]
  | none => []

/-- An argument that is given under a condition. -/
def argumentIf (condition : Bool) (argument : String) : List String :=
  if condition then [argument] else []

/-- The arguments of a plan. -/
def arguments (plan : AxisPlan) : List String :=
  match plan with
  | automatic => []
  | _ =>
      let lower := plan.lower?
      let upper := plan.upper?
      limitArguments "--lower-limit" lower ++ limitArguments "--upper-limit" upper ++
        argumentIf (lower.isSome || upper.isSome) "--rigid" ++
        argumentIf lower.isNone "--alt-autoscale-min" ++
        argumentIf upper.isNone "--alt-autoscale-max"

/-- The limits of a plan that leaves nothing to draw between them. -/
def emptyRange? (plan : AxisPlan) : Option (Float × Float) :=
  match plan with
  | rigid lower upper => if upper ≤ lower then some (lower, upper) else none
  | _ => none

end AxisPlan

end MainsCharts
