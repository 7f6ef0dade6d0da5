import MainsCharts.Chart.Frequency
import MainsCharts.Chart.Overlay
import MainsCharts.Chart.Rate
import MainsCharts.Chart.Spread
import MainsCharts.Probe

/-!
# The charts

The five charts that there are, with what distinguishes them: the name they are
chosen by, the data source, the kind of window, the scalars that give the bounds
of their values, and a floor for the axis where values cannot be negative.
-/

namespace MainsCharts

set_option autoImplicit false

/-- A chart. -/
inductive Chart where
  /-- The frequency. -/
  | normal
  /-- The rate of its change. -/
  | diff
  /-- The spread between the greatest and the least frequency. -/
  | spread
  /-- The frequency, overlaid. -/
  | overlap
  /-- The rate, overlaid. -/
  | overlapDiff
  deriving DecidableEq

namespace Chart

/-- All charts, in the order in which they are offered. -/
def all : List Chart :=
  [normal, diff, spread, overlap, overlapDiff]

/-- The name that a chart is chosen by. -/
def id : Chart → String
  | normal => "normal"
  | diff => "diff"
  | spread => "spread"
  | overlap => "overlap"
  | overlapDiff => "overlap-diff"

/-- What a chart shows, in a sentence. -/
def about : Chart → String
  | normal => "Mains frequency over a floating time window"
  | diff => "Rate of frequency change over a floating time window"
  | spread => "Spread between max and min frequency over a floating time window"
  | overlap => "Mains frequency, consecutive periods overlaid"
  | overlapDiff => "Rate of frequency change, consecutive periods overlaid"

/-- The data source of a chart. -/
def source : Chart → String
  | normal | spread | overlap => Frequency.source
  | diff | overlapDiff => Rate.source

/-- Whether a chart overlays stretches of time. -/
def isOverlay : Chart → Bool
  | overlap | overlapDiff => true
  | normal | diff | spread => false

/-- The scalars that give the bounds of the values of a chart. -/
def targets : Chart → ProbeTargets
  | normal | overlap => ⟨some "g_min", some "g_max"⟩
  | diff | overlapDiff => ⟨none, some "g_max"⟩
  | spread => ⟨none, some "g_diff_max"⟩

/-- The lower limit that always applies to the axis of a chart. -/
def floor : Chart → Option Float
  | normal | overlap => none
  | diff | spread | overlapDiff => some 0.0

/-- The drawing of a chart. -/
def declare (chart : Chart) (context : ChartContext) : Except Misuse Drawing :=
  match chart with
  | normal => .ok (Frequency.declare context)
  | diff => .ok (Rate.declare context)
  | spread => .ok (Spread.declare context)
  | overlap => Overlay.declare Overlay.frequency context
  | overlapDiff => Overlay.declare Overlay.rate context

/-- The chart of a name, the case of ASCII letters left aside. -/
def named? (name : String) : Option Chart :=
  all.find? fun chart => chart.id.toList.map Char.toLower = name.toList.map Char.toLower

end Chart

end MainsCharts
