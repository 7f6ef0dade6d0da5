import MainsCharts.Duration
import MainsCharts.Element
import MainsCharts.Palette
import MainsCharts.Window

/-!
# Drawings and their context

What a chart needs to know to declare its elements, and the parts that several
charts have in common: the title, the heading of the measurements and the limits
that the standard sets for the mains frequency.
-/

namespace MainsCharts

set_option autoImplicit false

/-- What is known when the elements of a chart are declared. -/
structure ChartContext where
  /-- The database file. -/
  path : String
  /-- The seconds of the period that is shown, or of one stretch of an overlay. -/
  period : Nat
  /-- The seconds that a trend averages over. -/
  trendWindow : Nat
  /-- The percentage of samples at either end that count as noise. -/
  errorPercentage : Float
  window : Window
  palette : Palette

namespace ChartContext

/-- The percentile that values are clipped at from below. -/
def lowerPercentile (context : ChartContext) : Float :=
  context.errorPercentage

/-- The percentile that values are clipped at from above. -/
def upperPercentile (context : ChartContext) : Float :=
  100.0 - context.errorPercentage

end ChartContext

/-- A title and the elements under it. -/
structure Drawing where
  title : String
  elements : List Element

/-- A drawing as arguments of the renderer. -/
def Drawing.arguments (drawing : Drawing) : List String :=
  "--title" :: drawing.title :: drawing.elements.map Element.text

namespace Drawing

/-- A title: what is shown, for how long, and in which unit. -/
def titleOf (subject span unit : String) : String :=
  subject ++ ", " ++ span ++ ", " ++ unit

/-- A text in bold type. -/
def bold (text : String) : String :=
  "<b>" ++ text ++ "</b>"

/-- A series as an operand. -/
def series (name : String) : Expression :=
  .series name

/-- A number as an operand. -/
def number (value : Float) : Expression :=
  .number value

/-- A series clipped to a range. -/
def clipped (name raw : String) (lower upper : Expression) : Element :=
  .derived name (.drop (series raw) lower upper)

/-- A scalar that reduces a series. -/
def reduction (name : String) (symbol : Operator) (of : String) : Element :=
  .scalar name (.unary symbol (series of))

/-- A percentile of a series, unknown samples left out. -/
def percentile (name of : String) (rank : Float) : Element :=
  .scalar name (.binary .percentileKnown (series of) (number rank))

/-- A series that is one where two others compare. -/
def comparison (name : String) (symbol : Operator) (first second : String) : Element :=
  .derived name (.binary symbol (series first) (series second))

/-- A series that is one where another is unknown. -/
def absence (name of : String) : Element :=
  .derived name (.unary .isUnknown (series of))

/-- A series that is one at the boundaries of the calendar periods that suit a
duration. -/
def boundaries (duration : Nat) (dummy : String) : Element :=
  .derived "ztick" ((Granularity.ofDuration duration).tick (series dummy))

/-- The heading of the measurements, with the length of the trend window. -/
def measurementsHeading (title : String) (trendWindow : Nat) : Element :=
  .heading title
    (some
      ("(Бледные - исходные данные, Яркие - тренд за " ++ Duration.text trendWindow ++
        ", пунктир - за весь период)"))

/-- The nominal frequency and the limits that it may not leave. -/
def frequencyLimits (palette : Palette) : List Element :=
  [.heading "Пределы:" (some "(ГОСТ 32144-2013 4.2.1)"),
    .rule 50.0 palette.nominal (some "Номинальное (50 Hz);") ["dashes"],
    .comment "Допуст. 100% времени (±0.4 Hz) и 95% времени (±0.2 Hz):",
    .rule 49.6 palette.low (some "Наим.") ["dashes"],
    .rule 49.8 palette.low none ["dashes"],
    .rule 50.2 palette.high (some "Наиб.") ["dashes"],
    .rule 50.4 palette.high none ["dashes"],
    .comment "(Могут скрыться)\\n"]

end Drawing

end MainsCharts
