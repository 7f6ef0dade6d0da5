import MainsCharts.Axis.Plan
import MainsCharts.Command
import MainsCharts.Chart
import MainsCharts.SeriesNames
import MainsCharts.TrendWindow

/-!
# Building a chart

What was asked for is checked first; then the period is resolved, the trend
window with it, and the elements are declared.  The renderer is asked for the
bounds of the values unless that is switched off or both limits are given.  From
the bounds, the floor of the chart and the limits that were asked for comes the
plan of the axis, and from all of it the command.
-/

namespace MainsCharts

set_option autoImplicit false

open Numeral

/-- What is asked of the axis. -/
structure RangeRequest where
  /-- Whether the bounds of the values may be probed. -/
  detect : Bool
  lower : Option Float
  upper : Option Float

namespace RangeRequest

/-- Whether both limits are asked for. -/
def isComplete (range : RangeRequest) : Bool :=
  range.lower.isSome && range.upper.isSome

/-- Whether the bounds of the values are wanted. -/
def wantsBounds (range : RangeRequest) : Bool :=
  range.detect && !range.isComplete

/-- Refuses limits in the wrong order. -/
def checkOrder (range : RangeRequest) : Except Misuse Unit :=
  match range.lower, range.upper with
  | some lower, some upper =>
      if upper ≤ lower then .error (.limitsCrossed lower upper) else .ok ()
  | _, _ => .ok ()

end RangeRequest

/-- A chart that is asked for. -/
structure ChartJob where
  /-- The database file. -/
  path : String
  image : String
  window : Window
  trend : TrendWindow
  errorPercentage : Float
  range : RangeRequest

namespace ChartJob

/-- Refuses a percentage that would leave no samples. -/
def checkPercentage (job : ChartJob) : Except Misuse Unit :=
  if 0.0 ≤ job.errorPercentage ∧ job.errorPercentage < 50.0 then .ok ()
  else .error (.errorPercentage job.errorPercentage)

/-- Refuses a window of the wrong kind. -/
def checkWindow (job : ChartJob) (chart : Chart) : Except Misuse Unit :=
  if chart.isOverlay = job.window.isOverlay then .ok ()
  else .error (.windowKind chart.id chart.isOverlay)

/-- The seconds of the period that is shown: of a floating window as the renderer
resolves it, of an overlay the width of one stretch. -/
def resolvePeriod (job : ChartJob) (chart : Chart) (renderer : Renderer) : Session Nat :=
  match job.window with
  | .floating start stop => do
      let period ← detectPeriod renderer job.path chart.source start stop
      return period.length
  | .overlay _ width depth => do
      let _ ← Session.check (overlaySpan width depth)
      return width

/-- The trend window in seconds, refused when it is empty. -/
def resolveTrend (job : ChartJob) (period : Nat) : Except Misuse Nat :=
  let window := job.trend.resolve period
  if window = 0 then .error (.trendEmpty period) else .ok window

/-- What the elements of a job are declared from. -/
def context (job : ChartJob) (period trendWindow : Nat) : ChartContext where
  path := job.path
  period
  trendWindow
  errorPercentage := job.errorPercentage
  window := job.window
  palette := .classic

/-- The bounds of the values, as far as they are wanted. -/
def resolveBounds (job : ChartJob) (chart : Chart) (renderer : Renderer)
    (declarations : List String) : Session ValueBounds :=
  if job.range.wantsBounds then do
    let bounds ← probeBounds renderer job.window.timeFlags declarations chart.targets
    Session.note (if bounds.isUnknown then .boundsMissing chart.id else .boundsDetected)
    return bounds
  else return .unknown

/-- The plan of the axis, refused when it leaves nothing to draw. -/
def planAxis (job : ChartJob) (chart : Chart) (bounds : ValueBounds) :
    Except Misuse AxisPlan :=
  let plan :=
    (AxisPlan.fromBounds bounds chart.floor).withExplicit job.range.lower job.range.upper
  match plan.emptyRange? with
  | some (lower, upper) => .error (.noRange lower upper)
  | none => .ok plan

/-- The arguments of the command. -/
def arguments (job : ChartJob) (canvas : Canvas) (plan : AxisPlan)
    (declarations : List String) : List String :=
  canvas.arguments job.image ++ job.window.timeFlags ++ plan.arguments ++ declarations

/-- The checks that need nothing but the job. -/
def checkRequest (job : ChartJob) (chart : Chart) : Except Misuse Unit := do
  job.checkPercentage
  job.range.checkOrder
  job.checkWindow chart

/-- The declarations of a chart, refused when a name is declared twice. -/
def declarations (job : ChartJob) (chart : Chart) (period trendWindow : Nat) :
    Except Misuse (List String) := do
  let drawing ← chart.declare (job.context period trendWindow)
  checkNames drawing.arguments
  return drawing.arguments

/-- The command that draws a chart. -/
def build (job : ChartJob) (chart : Chart) (renderer : Renderer) (canvas : Canvas) :
    Session Command := do
  Session.check (job.checkRequest chart)
  let period ← job.resolvePeriod chart renderer
  let trendWindow ← Session.check (job.resolveTrend period)
  Session.note (.chartChosen chart.about)
  let declarations ← Session.check (job.declarations chart period trendWindow)
  let bounds ← job.resolveBounds chart renderer declarations
  let plan ← Session.check (job.planAxis chart bounds)
  return ⟨renderer.program, job.arguments canvas plan declarations⟩

end ChartJob

end MainsCharts
