import MainsCharts.Element
import MainsCharts.Session
import MainsCharts.Report

/-!
# Probing the renderer

Before a chart is drawn the renderer is asked, without an image, which period the
time specifications resolve to, and in which range the values lie.  The scalars
whose values are wanted are printed into the report under the labels that the
report is read by.
-/

namespace MainsCharts

set_option autoImplicit false

open Text

/-- The scalars that give the bounds of the values. -/
structure ProbeTargets where
  least : Option String
  greatest : Option String
  deriving DecidableEq

namespace ProbeTargets

/-- Whether there is nothing to ask for. -/
def isEmpty (targets : ProbeTargets) : Bool :=
  targets.least.isNone && targets.greatest.isNone

/-- The element that reports a scalar under a label. -/
def printed (target : Option String) (label : String) : List Element :=
  target.toList.map fun name => .print name label

/-- The elements that report the targets. -/
def elements (targets : ProbeTargets) : List Element :=
  printed targets.least ValueBounds.leastLabel ++
    printed targets.greatest ValueBounds.greatestLabel

/-- The arguments that report the targets. -/
def arguments (targets : ProbeTargets) : List String :=
  targets.elements.map Element.text

end ProbeTargets

/-- Where the renderer puts an image that nobody wants. -/
def nullDevice : String := "/dev/null"

/-- The elements of the period probe: one series, and a scalar so that it is read. -/
def periodElements (path source : String) : List Element :=
  [.stored "dummy" path source .average none,
    .scalar "global_dummy" (.sequence [.series "dummy", .operator .seriesAverage]),
    .report "global_dummy" "%3.4lf"]

/-- The arguments of the period probe. -/
def periodArguments (path source start stop : String) : List String :=
  ["graphv", nullDevice, "--start", start, "--end", stop, "--width", "256", "--height", "128",
    "--full-size-mode"] ++ (periodElements path source).map Element.text

/-- Asks which period two time specifications resolve to. -/
def detectPeriod (renderer : Renderer) (path source start stop : String) : Session Period := do
  let report ← renderer.ask .probe (periodArguments path source start stop)
  let period ← Session.accept (Period.ofReport (Utf8.encode report.toList))
  Session.note (.periodDetected period)
  return period

/-- The arguments of the probe for the bounds of the values. -/
def boundsArguments (timeFlags declarations : List String) (targets : ProbeTargets) :
    List String :=
  "graph" :: nullDevice :: (timeFlags ++ declarations ++ targets.arguments)

/-- Asks for the bounds of the values.  Without targets nothing is asked. -/
def probeBounds (renderer : Renderer) (timeFlags declarations : List String)
    (targets : ProbeTargets) : Session ValueBounds :=
  if targets.isEmpty then return .unknown
  else do
    let report ← renderer.ask .probe (boundsArguments timeFlags declarations targets)
    Session.accept (ValueBounds.ofReport (Utf8.encode report.toList))

end MainsCharts
