import MainsCharts.Chart.Drawing
import MainsCharts.Chart.Frequency
import MainsCharts.Chart.Rate
import MainsCharts.Color

/-!
# The overlay charts

Stretches of equal width that follow one another are moved onto the most recent
one and drawn over each other, from the oldest to the most recent.  Stretch
number zero is the most recent; stretch `i` ends `i` widths before the end of the
window and is moved forward by as much.  Offsets are signed numbers of sixty-four
bits, and the width is taken back from the span of the whole overlay.

There are two overlays, of the frequency and of its rate.  They differ in the data
source and the texts, and in whether the values are clipped from below at a
percentile, which then is also drawn, or at zero.
-/

namespace MainsCharts.Overlay

set_option autoImplicit false

open Drawing

/-- What the two overlays differ in. -/
structure Variant where
  source : String
  subject : String
  unit : String
  /-- Whether values are clipped from below at a percentile, and not at zero. -/
  clipsBelow : Bool
  deriving DecidableEq

/-- The overlay of the frequency. -/
def frequency : Variant where
  source := Frequency.source
  subject := "Совмещенная частота в сети"
  unit := "Hz"
  clipsBelow := true

/-- The overlay of the rate. -/
def rate : Variant where
  source := Rate.source
  subject := "Совмещенная интенсивность изменения частоты в сети"
  unit := "Hz/sec"
  clipsBelow := false

/-- The name of a series of one stretch. -/
def stretchName (stage : String) (stretch : Nat) (kind : String) : String :=
  stage ++ "_i" ++ Nat.repr stretch ++ "_" ++ kind

/-- A stored series of one stretch. -/
def rawName (stretch : Nat) (kind : String) : String :=
  stretchName "r" stretch kind

/-- The clipped average of one stretch. -/
def clippedName (stretch : Nat) : String :=
  stretchName "f" stretch "avg"

/-- The trend of the clipped average of one stretch. -/
def trendName (stretch : Nat) : String :=
  stretchName "t" stretch "avg"

/-- Elements that are given only in one variant. -/
def whenever (condition : Bool) (elements : List Element) : List Element :=
  if condition then elements else []

/-- The series that are stored of a stretch. -/
def kinds : List (String × Consolidation) :=
  [("min", .minimum), ("max", .maximum), ("avg", .average)]

/-- The seconds of one stretch, when `depth` of them cover `total` seconds. -/
def stretchLength (total depth : Nat) : Int64 :=
  Int64.ofNat total / Int64.ofNat depth

/-- How many seconds before the end of the window a stretch ends. -/
def offset (length : Int64) (stretch : Nat) : Int64 :=
  Int64.ofNat stretch * length

/-- The time specification that lies an offset before another. -/
def earlierBy (moment : String) (seconds : Int64) : String :=
  moment ++ "-" ++ Int.repr seconds.toInt

/-- The time span of a stretch. -/
def spanOf (stop : String) (length : Int64) (stretch : Nat) : FetchSpan where
  start := earlierBy stop (offset length stretch + length)
  stop := earlierBy stop (offset length stretch)

/-- The stored series of one stretch, moved onto the most recent one. -/
def slice (path source stop : String) (length : Int64) (stretch : Nat) : List Element :=
  kinds.map
      (fun (kind, consolidation) =>
        .stored (rawName stretch kind) path source consolidation
          (some (spanOf stop length stretch))) ++
    kinds.map fun (kind, _) => .shift (rawName stretch kind) (offset length stretch).toInt

/-- The stored series of all stretches, which cover `total` seconds. -/
def slices (path source stop : String) (total depth : Nat) : List Element :=
  (List.range depth).flatMap (slice path source stop (stretchLength total depth))

/-- One operand for each stretch. -/
def each (depth : Nat) (name : Nat → String) : List Expression :=
  (List.range depth).map fun stretch => series (name stretch)

/-- What values are clipped at from below. -/
def lowerEnd (variant : Variant) : Expression :=
  if variant.clipsBelow then series "g_min" else number 0.0

/-- The clipped average of one stretch, and its trend. -/
def stretchTrend (variant : Variant) (trendWindow stretch : Nat) : List Element :=
  clipped (clippedName stretch) (rawName stretch "avg") (lowerEnd variant) (series "g_max") ::
    Element.trend (trendName stretch) (clippedName stretch) trendWindow

/-- The least and the greatest value over all stretches, and their percentiles. -/
def extremes (context : ChartContext) (variant : Variant) (depth : Nat) :
    Except Misuse (List Element) := do
  let least ← Expression.chain .minimumKnown (each depth fun stretch => rawName stretch "min")
  let greatest ← Expression.chain .maximumKnown (each depth fun stretch => rawName stretch "max")
  return [.derived "r_min" least, .derived "r_max" greatest] ++
    whenever variant.clipsBelow [percentile "g_min" "r_min" context.lowerPercentile] ++
    [percentile "g_max" "r_max" context.upperPercentile]

/-- The averages over all stretches. -/
def averages (depth : Nat) : Except Misuse (List Element) := do
  let raw ← Expression.average (each depth fun stretch => rawName stretch "avg")
  let inner ← Expression.average (each depth clippedName)
  let smooth ← Expression.average (each depth trendName)
  return [.derived "r_avg" raw, .derived "f_avg" inner, .derived "t_avg" smooth,
    reduction "g_avg" .seriesAverage "f_avg"]

/-- The series that are marked.  The number of stretches without data is their sum. -/
def marked (variant : Variant) (width depth : Nat) : Except Misuse (List Element) := do
  let missing ←
    Expression.chain .add
      ((List.range depth).map fun stretch =>
        Expression.unary .isUnknown (series (rawName stretch "avg")))
  return whenever variant.clipsBelow [comparison "e_min" .lessThan "r_min" "g_min"] ++
    [comparison "e_max" .greaterThan "r_max" "g_max",
      absence "e_miss_all" "r_avg",
      .derived "e_miss_some" missing,
      boundaries width (rawName 0 "avg")]

/-- The marks, and the limits where there are any. -/
def markers (palette : Palette) (variant : Variant) : List Element :=
  [.alignLeft,
    .comment "Маркеры:",
    .tick "e_miss_all" palette.missingAll (some 1.0) (some "  Нет данных вообще"),
    .tick "ztick" palette.boundary (some 1.0) none,
    .tick "e_miss_some" palette.missing (some (-0.02)) none,
    .tick "e_miss_some" palette.missing (some 0.02) (some "  Нет части данных")] ++
    if variant.clipsBelow then
      [.tick "e_min" palette.low (some 0.02) (some "  Возм. ошибки вниз"),
        .tick "e_max" palette.high (some (-0.02)) (some "  Возм. ошибки вверх\\n")] ++
        frequencyLimits palette
    else [.tick "e_max" palette.high (some (-0.02)) (some "  Возм. ошибки\\n")]

/-- One line for each stretch, the oldest first, in the colors of a gradient. -/
def stretchLines (colors : List Color) (line : Nat → Color → Element) : List Element :=
  colors.zipIdx.reverse.map fun (color, stretch) => line stretch color

/-- The lines of the stored averages. -/
def rawLines (palette : Palette) (depth : Nat) : List Element :=
  stretchLines (Color.gradient palette.depthOldest palette.depthRecent depth)
    fun stretch color => .line 1 (rawName stretch "avg") color none ["skipscale"]

/-- The lines of the trends. -/
def trendLines (palette : Palette) (depth : Nat) : List Element :=
  stretchLines (Color.gradient palette.depthTrendOldest palette.depthTrendRecent depth)
    fun stretch color =>
      .line 1 (trendName stretch) color (some ("-" ++ Nat.repr stretch ++ ",")) []

/-- The format of a scalar in the legend. -/
def scalarFormat (variant : Variant) (marker : String) : String :=
  "%2.4lf %s" ++ variant.unit ++ marker

/-- The lines of what all stretches have in common, and their legend. -/
def measurements (palette : Palette) (variant : Variant) : List Element :=
  whenever variant.clipsBelow
      [.line 1 "g_min" palette.globalMinimum (some "↓Общ. наим.\\t") ["dashes"]] ++
    [.line 1 "g_max" palette.globalMaximum (some "↓Общ. наиб.\\t") ["dashes"],
      .line 1 "g_avg" palette.overall none ["dashes", "dash-offset=5"],
      .line 2 "t_avg" palette.overall (some "↓Общ. сред.\\n") []] ++
    whenever variant.clipsBelow [.report "g_min" (scalarFormat variant "\\t")] ++
    [.report "g_max" (scalarFormat variant "\\t"),
      .report "g_avg" (scalarFormat variant "\\n")]

/-- The end of the legend.  The trend of the average is drawn once more above the
lines of the stretches. -/
def closing (context : ChartContext) : List Element :=
  [.comment "\\n",
    .line 2 "t_avg" (context.palette.overall.withAlpha 0x7F) none [],
    Element.noiseRemark context.errorPercentage]

/-- The title of an overlay. -/
def title (variant : Variant) (width depth : Nat) : String :=
  titleOf variant.subject
    (bold (Nat.repr depth) ++ " периодов по " ++ bold (Duration.text width)) variant.unit

/-- An overlay of a window of several stretches. -/
def declareStretches (context : ChartContext) (variant : Variant) (stop : String)
    (width depth : Nat) : Except Misuse Drawing := do
  let total ← overlaySpan width depth
  let extremes ← extremes context variant depth
  let averages ← averages depth
  let marked ← marked variant width depth
  return {
    title := title variant width depth
    elements :=
      slices context.path variant.source stop total depth ++ extremes ++
        (List.range depth).flatMap (stretchTrend variant context.trendWindow) ++
        averages ++ marked ++ markers context.palette variant ++
        [measurementsHeading "Измерения:" context.trendWindow] ++
        rawLines context.palette depth ++ measurements context.palette variant ++
        [.comment ("Глубина (" ++ Nat.repr depth ++ "):")] ++
        trendLines context.palette depth ++ closing context }

/-- An overlay chart. -/
def declare (variant : Variant) (context : ChartContext) : Except Misuse Drawing :=
  match context.window with
  | .overlay stop width depth => declareStretches context variant stop width depth
  | .floating _ _ => .error .overlayWindowMissing

end MainsCharts.Overlay
