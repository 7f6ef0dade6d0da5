import MainsCharts.Chart

/-!
# Descriptions of charts

A chart written out with its name, its data source and what it is capable of, for
those who look into the program at work.
-/

namespace MainsCharts.Chart

set_option autoImplicit false

open Numeral Text

/-- A record of named parts. -/
def recordText (name : String) (parts : List (String × String)) : String :=
  name ++ " \x7b " ++
    ", ".intercalate (parts.map fun (label, value) => label ++ ": " ++ value) ++ " \x7d"

/-- A part that may be absent. -/
def optionText {α : Type} (text : α → String) : Option α → String
  | some value => "Some(" ++ text value ++ ")"
  | none => "None"

/-- A truth value. -/
def truthText (value : Bool) : String :=
  if value then "true" else "false"

/-- A double, with a decimal even when it is a whole number. -/
def decimalText (value : Float) : String :=
  let digits := shortestText value
  if '.' ∈ digits.toList then digits else digits ++ ".0"

/-- The targets of a probe. -/
def targetsText (targets : ProbeTargets) : String :=
  recordText "ProbeTargets"
    [("min", optionText quoted targets.least), ("max", optionText quoted targets.greatest)]

/-- A chart with all that distinguishes it. -/
def description (chart : Chart) : String :=
  recordText "ChartDef"
    [("id", quoted chart.id), ("source", quoted chart.source),
      ("caps",
        recordText "Capabilities"
          [("overlay", truthText chart.isOverlay),
            ("probe", optionText targetsText (some chart.targets)),
            ("force_floor", optionText decimalText chart.floor)])]

end MainsCharts.Chart
