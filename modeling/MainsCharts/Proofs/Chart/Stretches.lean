import MainsCharts.Proofs.Chart.Names
import MainsCharts.Proofs.Chart.Trends
import MainsCharts.Proofs.Color.Gradient
import MainsCharts.Proofs.Expression.Folding
import MainsCharts.Proofs.Text.Fields

/-!
# Every stretch counts once and is drawn once

What an overlay says about its stretches is read off its arguments here.  The series that
sum up the stretches, the extremes, the averages and the number of stretches without data,
have one operand for each stretch, from the most recent one on; the two series that are derived
for a stretch are derived from those of the same stretch (`Counts`).  The lines of series of
stretches are those of the stored averages and then those of the trends, one each for every
stretch, from the oldest on, in the color at the place of the stretch in its gradient (`Draws`).

An argument is found by what it declares, and no name is declared twice
(`Chart.nodup_declaredNames`), so an element of a chart that derives a series is the only argument
about that series (`Chart.derives_of_mem`).
-/

namespace MainsCharts

set_option autoImplicit false

open Expression Numeral Text

/-! ## The argument that declares a name -/

/-- When what is found in a list has no repetition, each of it is found in one place. -/
theorem filter_eq_singleton {Entry Found : Type} [DecidableEq Found] {find : Entry → Option Found}
    {entries : List Entry} {entry : Entry} {found : Found}
    (distinct : (entries.filterMap find).Nodup) (member : entry ∈ entries)
    (here : find entry = some found) :
    entries.filter (fun other => find other = some found) = [entry] := by
  induction entries with
  | nil => exact nomatch member
  | cons first rest ih =>
      rcases List.mem_cons.mp member with rfl | behind
      · rw [List.filterMap_cons_some here, List.nodup_cons] at distinct
        have others : rest.filter (fun other => find other = some found) = [] := by
          rw [List.filter_eq_nil_iff]
          intro other inRest same
          exact distinct.1 (List.mem_filterMap.mpr ⟨other, inRest, of_decide_eq_true same⟩)
        rw [List.filter_cons, if_pos (decide_eq_true here), others]
      · have foreign : find first ≠ some found := by
          intro same
          rw [List.filterMap_cons_some same, List.nodup_cons] at distinct
          exact distinct.1 (List.mem_filterMap.mpr ⟨entry, behind, here⟩)
        have distinctRest : (rest.filterMap find).Nodup :=
          distinct.sublist ((List.sublist_cons_self first rest).filterMap find)
        rw [List.filter_cons, if_neg (mt of_decide_eq_true foreign), ih distinctRest behind]

/-- The arguments that declare a name. -/
def declaring (name : String) (arguments : List String) : List String :=
  arguments.filter fun argument => declaredName? argument = some name

/-- That one argument declares a name, and derives the series from others by some tokens. -/
def Derives (arguments : List String) (name : String) (tokens : List String) : Prop :=
  declaring name arguments = ["CDEF:" ++ name ++ "=" ++ ",".intercalate tokens]

/-- The arguments of a chart derive a series the way that its element does. -/
theorem Chart.derives_of_mem {chart : Chart} {context : ChartContext} {drawing : Drawing}
    (declared : chart.declare context = .ok drawing) {name : String} {value : Expression}
    (member : Element.derived name value ∈ drawing.elements) :
    Derives drawing.arguments name value.tokens := by
  have wellNamed := isWellNamed_of_isScoped (isScoped_declare declared) _
    (List.mem_append_left _ member)
  have distinct : (drawing.arguments.filterMap declaredName?).Nodup := by
    rw [filterMap_declaredName?_arguments declared]
    exact nodup_declaredNames declared
  have written : (Element.derived name value).text ∈ drawing.arguments :=
    List.mem_cons_of_mem _ (List.mem_cons_of_mem _ (List.mem_map_of_mem member))
  have named : declaredName? (Element.derived name value).text = some name := by
    rw [declaredName?_eq, Element.declaration?_text wellNamed]
    rfl
  rw [Derives, declaring, filter_eq_singleton distinct written named, Element.text,
    text_eq_intercalate]

/-! ## The series that sum up the stretches -/

/-- That the arguments of an overlay take every stretch into account once.  The values of a stretch
are clipped from below at what `lower` stands for. -/
structure Counts (lower : String) (trendWindow depth : Nat) (arguments : List String) : Prop where
  least : Derives arguments "r_min"
    (foldTokens "MINNAN"
      ((List.range depth).map fun stretch => ["r_i" ++ Nat.repr stretch ++ "_min"]))
  greatest : Derives arguments "r_max"
    (foldTokens "MAXNAN"
      ((List.range depth).map fun stretch => ["r_i" ++ Nat.repr stretch ++ "_max"]))
  raw : Derives arguments "r_avg"
    ((List.range depth).map (fun stretch => "r_i" ++ Nat.repr stretch ++ "_avg") ++
      [Nat.repr depth, "AVG"])
  inner : Derives arguments "f_avg"
    ((List.range depth).map (fun stretch => "f_i" ++ Nat.repr stretch ++ "_avg") ++
      [Nat.repr depth, "AVG"])
  smooth : Derives arguments "t_avg"
    ((List.range depth).map (fun stretch => "t_i" ++ Nat.repr stretch ++ "_avg") ++
      [Nat.repr depth, "AVG"])
  /-- The number of stretches without data. -/
  missing : Derives arguments "e_miss_some"
    (foldTokens "+"
      ((List.range depth).map fun stretch => ["r_i" ++ Nat.repr stretch ++ "_avg", "UN"]))
  clipped : ∀ stretch < depth, Derives arguments ("f_i" ++ Nat.repr stretch ++ "_avg")
    ["r_i" ++ Nat.repr stretch ++ "_avg", lower, "g_max", "LIMIT"]
  trend : ∀ stretch < depth, Derives arguments ("t_i" ++ Nat.repr stretch ++ "_avg")
    ["f_i" ++ Nat.repr stretch ++ "_avg", Int.repr (asSigned trendWindow), "TRENDNAN"]

namespace Overlay

open Drawing

theorem rawName_eq (kind : String) (stretch : Nat) :
    rawName stretch kind = "r_i" ++ Nat.repr stretch ++ ("_" ++ kind) :=
  String.append_assoc

theorem clippedName_eq (stretch : Nat) :
    clippedName stretch = "f_i" ++ Nat.repr stretch ++ "_avg" :=
  String.append_assoc

theorem trendName_eq (stretch : Nat) : trendName stretch = "t_i" ++ Nat.repr stretch ++ "_avg" :=
  String.append_assoc

section Operands

variable {depth : Nat} {name spelled : Nat → String} {built : Expression}

theorem map_tokens_each (same : ∀ stretch, name stretch = spelled stretch) :
    (each depth name).map tokens = (List.range depth).map fun stretch => [spelled stretch] := by
  rw [each, List.map_map]
  refine List.map_congr_left ?_
  intro stretch _
  rw [Function.comp_apply, Drawing.series, tokens, same]

/-- The tokens of a fold over one series of each stretch. -/
theorem tokens_chain_each {symbol : Operator}
    (chained : Expression.chain symbol (each depth name) = .ok built)
    (same : ∀ stretch, name stretch = spelled stretch) :
    built.tokens =
      foldTokens symbol.token ((List.range depth).map fun stretch => [spelled stretch]) := by
  rw [tokens_chain chained, map_tokens_each same]

/-- The tokens of an average over one series of each stretch. -/
theorem tokens_average_each (fits : depth ≤ greatestSigned)
    (averaged : Expression.average (each depth name) = .ok built)
    (same : ∀ stretch, name stretch = spelled stretch) :
    built.tokens = (List.range depth).map spelled ++ [Nat.repr depth, "AVG"] := by
  have length : (each depth name).length = depth := by rw [each, List.length_map, List.length_range]
  have names : (each depth name).flatMap tokens = (List.range depth).map spelled := by
    rw [List.flatMap_def, map_tokens_each same, ← List.flatMap_def]
    exact List.flatMap_pure_eq_map spelled _
  rw [tokens_average averaged, length, (asSigned_eq_self_iff depth).mpr fits, names]
  rfl

/-- The tokens of the number of stretches without data. -/
theorem tokens_chain_absences
    (chained : Expression.chain .add (absences depth) = .ok built)
    (same : ∀ stretch, rawName stretch "avg" = spelled stretch) :
    built.tokens =
      foldTokens "+" ((List.range depth).map fun stretch => [spelled stretch, "UN"]) := by
  have operands : (absences depth).map tokens =
      (List.range depth).map fun stretch => [spelled stretch, "UN"] := by
    rw [absences, List.map_map]
    refine List.map_congr_left ?_
    intro stretch _
    rw [Function.comp_apply, tokens_unary, Drawing.series, tokens, same]
    rfl
  rw [tokens_chain chained, operands]
  rfl

end Operands

/-- What stands for the lower end of the values of an overlay. -/
def lowerToken (variant : Variant) : String :=
  if variant.clipsBelow then "g_min" else "0"

theorem tokens_lowerEnd (variant : Variant) : (lowerEnd variant).tokens = [lowerToken variant] := by
  have zero : numberToken 0.0 = "0" := by decide
  rw [lowerEnd, lowerToken]
  split
  · rw [Drawing.series, tokens]
  · rw [Drawing.number, tokens, zero]

variable {context : ChartContext} {variant : Variant} {depth : Nat} {folds : Folds depth}
  {stop : String} {width : Nat}

/-- The series that sum up the stretches. -/
def summing (folds : Folds depth) : List (String × Expression) :=
  [("r_min", folds.least), ("r_max", folds.greatest), ("r_avg", folds.raw),
    ("f_avg", folds.inner), ("t_avg", folds.smooth), ("e_miss_some", folds.missing)]

theorem mem_seriesOf_of_mem_summing {name : String} {value : Expression}
    (listed : (name, value) ∈ summing folds) :
    Element.derived name value ∈ seriesOf context variant folds stop width := by
  simp only [summing, List.mem_cons, Prod.mk.injEq, List.not_mem_nil, or_false] at listed
  simp only [seriesOf, extremesOf, averagesOf, markedOf, List.mem_append, List.mem_cons]
  rcases listed with ⟨rfl, rfl⟩ | ⟨rfl, rfl⟩ | ⟨rfl, rfl⟩ | ⟨rfl, rfl⟩ | ⟨rfl, rfl⟩ | ⟨rfl, rfl⟩ <;>
    simp

theorem mem_seriesOf_of_mem_stretchTrend {element : Element} {stretch : Nat}
    (bounded : stretch < depth)
    (listed : element ∈ stretchTrend variant context.trendWindow stretch) :
    element ∈ seriesOf context variant folds stop width := by
  have inTrends : element ∈ (List.range depth).flatMap (stretchTrend variant context.trendWindow) :=
    List.mem_flatMap.mpr ⟨stretch, List.mem_range.mpr bounded, listed⟩
  simp only [seriesOf, List.mem_append, inTrends, true_or, or_true]

/-- An overlay takes every stretch into account once. -/
theorem counts_drawingOf {chart : Chart} (fits : depth ≤ greatestSigned)
    (declared : chart.declare context = .ok (drawingOf context variant folds stop width)) :
    Counts (lowerToken variant) context.trendWindow depth
      (drawingOf context variant folds stop width).arguments := by
  have derives {name : String} {value : Expression} {tokens : List String}
      (member : Element.derived name value ∈ seriesOf context variant folds stop width)
      (same : value.tokens = tokens) :
      Derives (drawingOf context variant folds stop width).arguments name tokens :=
    same ▸ Chart.derives_of_mem declared (List.mem_append_left _ member)
  have sums {name : String} {value : Expression} {tokens : List String}
      (same : value.tokens = tokens) (listed : (name, value) ∈ summing folds) :
      Derives (drawingOf context variant folds stop width).arguments name tokens :=
    derives (mem_seriesOf_of_mem_summing listed) same
  constructor
  case least =>
    exact sums (tokens_chain_each folds.least_eq (rawName_eq "min")) (by simp [summing])
  case greatest =>
    exact sums (tokens_chain_each folds.greatest_eq (rawName_eq "max")) (by simp [summing])
  case raw =>
    exact sums (tokens_average_each fits folds.raw_eq (rawName_eq "avg")) (by simp [summing])
  case inner =>
    exact sums (tokens_average_each fits folds.inner_eq clippedName_eq) (by simp [summing])
  case smooth =>
    exact sums (tokens_average_each fits folds.smooth_eq trendName_eq) (by simp [summing])
  case missing =>
    exact sums (tokens_chain_absences folds.missing_eq (rawName_eq "avg")) (by simp [summing])
  case clipped =>
    intro stretch bounded
    rw [← clippedName_eq]
    refine derives (mem_seriesOf_of_mem_stretchTrend bounded List.mem_cons_self) ?_
    rw [tokens_drop, tokens_lowerEnd, Drawing.series, Drawing.series, tokens, tokens, rawName_eq]
    rfl
  case trend =>
    intro stretch bounded
    rw [← trendName_eq]
    refine derives (mem_seriesOf_of_mem_stretchTrend bounded
      (List.mem_cons_of_mem _ List.mem_cons_self)) ?_
    rw [tokens_binary, tokens, ofWord, tokens, clippedName_eq]
    rfl

end Overlay

/-! ## The lines of series of stretches -/

/-- The series that a text draws a line of. -/
def lineSeries? (argument : String) : Option String :=
  (afterLine? argument.toList).map leadingName

/-- Whether a text draws a line of a series of a stretch. -/
def drawsStretch (argument : String) : Bool :=
  (lineSeries? argument).any Overlay.isStretchName

/-- A text that starts in another way draws no line. -/
theorem drawsStretch_of_not_mem_openingLetters {argument : String} {first : Char}
    {rest : List Char} (written : argument.toList = first :: rest)
    (foreign : first ∉ openingLetters) : drawsStretch argument = false := by
  have other : 'L' ≠ first := by
    rintro rfl
    exact foreign (by decide)
  simp [drawsStretch, lineSeries?, afterLine?, after?, written, other]

namespace Element

/-- Whether an element draws a line of a series of a stretch. -/
def drawsStretch : Element → Bool
  | line _ name _ _ _ => Overlay.isStretchName name
  | _ => false

theorem drawsStretch_text {element : Element} (wellNamed : element.isWellNamed = true) :
    MainsCharts.drawsStretch element.text = element.drawsStretch := by
  cases element with
  | line width name color legend flags =>
      obtain ⟨rest, behind, leads⟩ := afterLine?_line wellNamed width color legend flags
      rw [MainsCharts.drawsStretch, lineSeries?, behind, Option.map_some, leads]
      rfl
  | _ =>
      simp [MainsCharts.drawsStretch, lineSeries?, afterLine?, after?, text, drawsStretch]

/-- A line of a series of a stretch is something that is drawn. -/
theorem drawsStretch_of_not_isDrawn {element : Element} (plain : element.isDrawn = false) :
    element.drawsStretch = false := by
  cases element with
  | line => exact nomatch plain
  | _ => rfl

end Element

/-- The lines of series of stretches among the arguments of a chart are those among its
elements. -/
theorem Chart.filter_drawsStretch_arguments {chart : Chart} {context : ChartContext}
    {drawing : Drawing} (declared : chart.declare context = .ok drawing) :
    drawing.arguments.filter drawsStretch =
      (drawing.elements.filter Element.drawsStretch).map Element.text := by
  obtain ⟨first, rest, written, foreign⟩ := head_title declared
  have wellNamed := isWellNamed_of_isScoped (isScoped_declare declared)
  have option : drawsStretch "--title" = false :=
    drawsStretch_of_not_mem_openingLetters rfl (by decide)
  have title : drawsStretch drawing.title = false :=
    drawsStretch_of_not_mem_openingLetters written foreign
  rw [Drawing.arguments, List.filter_cons_of_neg (Bool.eq_false_iff.mp option),
    List.filter_cons_of_neg (Bool.eq_false_iff.mp title), List.filter_map]
  congr 1
  refine List.filter_congr ?_
  intro element member
  exact Element.drawsStretch_text (wellNamed element (List.mem_append_left _ member))

/-- The colors of a gradient, one for each stretch. -/
structure Shades (oldest recent : Color) (depth : Nat) (color : Nat → Color) : Prop where
  /-- The color of a stretch is the one at its place in the gradient. -/
  listed : ∀ stretch < depth, (Color.gradient oldest recent depth)[stretch]? = some (color stretch)
  /-- The most recent stretch has the color of the most recent one. -/
  recent : color 0 = recent
  /-- The oldest of several stretches has the color of the oldest one. -/
  oldest : 1 < depth → color (depth - 1) = oldest

theorem exists_shades {depth : Nat} (positive : 0 < depth) (fits : depth ≤ greatestWord)
    (oldest recent : Color) : ∃ color, Shades oldest recent depth color := by
  refine ⟨fun stretch => (Color.gradient oldest recent depth)[stretch]?.getD recent, ?_, ?_, ?_⟩
  · intro stretch bounded
    rw [← Color.length_gradient oldest recent depth] at bounded
    rw [List.getElem?_eq_getElem bounded, Option.getD_some]
  · rw [Color.getElem?_gradient_zero fits oldest recent positive, Option.getD_some]
  · intro several
    rw [Color.getElem?_gradient_last fits oldest recent several, Option.getD_some]

/-- That the arguments of an overlay draw every stretch once, with its stored average and with
its trend, from the oldest stretch on, each in its color. -/
structure Draws (palette : Palette) (depth : Nat) (raw smooth : Nat → Color)
    (arguments : List String) : Prop where
  rawShades : Shades palette.depthOldest palette.depthRecent depth raw
  smoothShades : Shades palette.depthTrendOldest palette.depthTrendRecent depth smooth
  lines : arguments.filter drawsStretch =
    (List.range depth).reverse.map
        (fun stretch =>
          "LINE1:r_i" ++ Nat.repr stretch ++ "_avg" ++ (raw stretch).text ++ "::skipscale") ++
      (List.range depth).reverse.map fun stretch =>
        "LINE1:t_i" ++ Nat.repr stretch ++ "_avg" ++ (smooth stretch).text ++ ":-" ++
          Nat.repr stretch ++ ","

namespace Overlay

/-- The lines of the stretches, in the colors of a gradient. -/
theorem stretchLines_eq {oldest recent : Color} {depth : Nat} {color : Nat → Color}
    (shades : Shades oldest recent depth color) (line : Nat → Color → Element) :
    stretchLines (Color.gradient oldest recent depth) line =
      (List.range depth).reverse.map fun stretch => line stretch (color stretch) := by
  have indexed : (Color.gradient oldest recent depth).zipIdx =
      (List.range depth).map fun stretch => (color stretch, stretch) := by
    refine List.ext_getElem (by simp [Color.length_gradient]) ?_
    intro stretch inGradient inRange
    rw [List.length_map, List.length_range] at inRange
    have here := shades.listed stretch inRange
    simp [List.getElem_zipIdx, (List.getElem?_eq_some_iff.mp here).2]
  rw [stretchLines, indexed, ← List.map_reverse, List.map_map]
  rfl

variable {context : ChartContext} {variant : Variant} {depth : Nat} {folds : Folds depth}
  {stop : String} {width : Nat}

section Drawn

attribute [local simp] Element.isDrawn Element.drawsStretch Element.heading Element.noiseRemark
  Element.trend Drawing.percentile Drawing.clipped Drawing.reduction Drawing.comparison
  Drawing.absence Drawing.boundaries Drawing.frequencyLimits

/-- The elements that declare or move a series draw nothing. -/
theorem isDrawn_seriesOf :
    ∀ element ∈ seriesOf context variant folds stop width, element.isDrawn = false := by
  have stored (length : Int64) (stretch : Nat) :
      ∀ element ∈ slice context.path variant.source stop length stretch,
        element.isDrawn = false := by
    simp [slice, kinds]
  have trend (stretch : Nat) : ∀ element ∈ stretchTrend variant context.trendWindow stretch,
      element.isDrawn = false := by
    simp [stretchTrend]
  have extremes : ∀ element ∈ extremesOf context variant folds, element.isDrawn = false := by
    cases below : variant.clipsBelow <;> simp [extremesOf, whenever, below]
  have averages : ∀ element ∈ averagesOf folds, element.isDrawn = false := by
    simp [averagesOf]
  have marked : ∀ element ∈ markedOf variant folds width, element.isDrawn = false := by
    cases below : variant.clipsBelow <;> simp [markedOf, whenever, below]
  simp only [seriesOf, slices, List.forall_mem_append, List.forall_mem_flatMap]
  exact ⟨⟨⟨⟨fun stretch _ => stored _ stretch, extremes⟩, fun stretch _ => trend stretch⟩,
    averages⟩, marked⟩

/-- The elements of an overlay that draw a line of a series of a stretch. -/
theorem filter_drawsStretch_elements :
    (drawingOf context variant folds stop width).elements.filter Element.drawsStretch =
      rawLines context.palette depth ++ trendLines context.palette depth := by
  have series : (seriesOf context variant folds stop width).filter Element.drawsStretch = [] := by
    rw [List.filter_eq_nil_iff]
    intro element member
    rw [Element.drawsStretch_of_not_isDrawn (isDrawn_seriesOf element member)]
    exact Bool.false_ne_true
  have marks : (markers context.palette variant).filter Element.drawsStretch = [] := by
    cases below : variant.clipsBelow <;> simp [markers, below]
  have common : (measurements context.palette variant).filter Element.drawsStretch = [] := by
    cases below : variant.clipsBelow <;> simp +decide [measurements, whenever, below]
  have last : (closing context).filter Element.drawsStretch = [] := by
    simp +decide [closing]
  have lines {oldest recent : Color} {line : Nat → Color → Element}
      (drawn : ∀ stretch color, (line stretch color).drawsStretch = true) :
      (stretchLines (Color.gradient oldest recent depth) line).filter Element.drawsStretch =
        stretchLines (Color.gradient oldest recent depth) line := by
    rw [List.filter_eq_self]
    intro element member
    obtain ⟨stretch, _, color, rfl⟩ := of_mem_stretchLines member
    exact drawn stretch color
  have raw : (rawLines context.palette depth).filter Element.drawsStretch =
      rawLines context.palette depth :=
    lines fun stretch _ => isStretchName_stretchName rfl stretch
  have smooth : (trendLines context.palette depth).filter Element.drawsStretch =
      trendLines context.palette depth :=
    lines fun stretch _ => isStretchName_stretchName rfl stretch
  simp [drawingOf, drawnOf, series, marks, common, last, raw, smooth,
    Drawing.measurementsHeading]

end Drawn

/-- The number of a stretch in the legend has no colon to escape. -/
theorem lineFields_age (stretch : Nat) :
    Element.lineFields (some ("-" ++ Nat.repr stretch ++ ",")) [] =
      ":-" ++ Nat.repr stretch ++ "," := by
  have digits : ':' ∉ (Nat.repr stretch).toList := by
    intro member
    exact absurd (isDigit_of_mem_repr member) (by decide)
  have clean : ':' ∉ ("-" ++ Nat.repr stretch ++ ",").toList := by
    rw [String.toList_append, String.toList_append, List.mem_append, List.mem_append, not_or,
      not_or]
    exact ⟨⟨by decide, digits⟩, by decide⟩
  have written : field ("-" ++ Nat.repr stretch ++ ",") = "-" ++ Nat.repr stretch ++ "," := by
    rw [field, escapeColons_eq_self_iff.mpr clean, String.ofList_toList]
  have flags : Element.flagFields [] = "" := rfl
  rw [Element.lineFields, written, flags, String.append_empty, ← String.append_assoc,
    ← String.append_assoc]
  rfl

/-- An overlay draws every stretch once. -/
theorem draws_drawingOf {chart : Chart} {raw smooth : Nat → Color}
    (declared : chart.declare context = .ok (drawingOf context variant folds stop width))
    (rawShades : Shades context.palette.depthOldest context.palette.depthRecent depth raw)
    (smoothShades : Shades context.palette.depthTrendOldest context.palette.depthTrendRecent depth
      smooth) :
    Draws context.palette depth raw smooth
      (drawingOf context variant folds stop width).arguments := by
  refine ⟨rawShades, smoothShades, ?_⟩
  rw [Chart.filter_drawsStretch_arguments declared, filter_drawsStretch_elements, rawLines,
    trendLines, stretchLines_eq rawShades, stretchLines_eq smoothShades, List.map_append,
    List.map_map, List.map_map]
  congr 1
  · refine List.map_congr_left ?_
    intro stretch _
    simp only [Function.comp_apply, Element.text, rawName_eq]
    rfl
  · refine List.map_congr_left ?_
    intro stretch _
    simp only [Function.comp_apply, Element.text, trendName_eq, lineFields_age]
    rw [← String.append_assoc, ← String.append_assoc]
    rfl

end Overlay

namespace Chart

/-- **Every stretch of an overlay counts once and is drawn once.**  An overlay whose span can be
computed is declared.  Each of its sums has one operand for every stretch, what is derived for a
stretch is derived from its own series, and there are two lines for every stretch and no more. -/
theorem declare_stretches {chart : Chart} (overlay : chart.isOverlay = true)
    {context : ChartContext} {stop : String} {width depth total : Nat}
    (window : context.window = .overlay stop width depth)
    (span : overlaySpan width depth = .ok total) :
    ∃ drawing, chart.declare context = .ok drawing ∧
      Counts (if chart = overlap then "g_min" else "0") context.trendWindow depth
        drawing.arguments ∧
      ∃ raw smooth, Draws context.palette depth raw smooth drawing.arguments := by
  obtain ⟨wide, deep, within, _⟩ := overlaySpan_eq_ok_iff.mp span
  have fits : depth ≤ greatestSigned :=
    Nat.le_trans (Nat.le_mul_of_pos_left depth wide) within
  obtain ⟨folds⟩ := Overlay.exists_folds deep
  have word : depth ≤ greatestWord := fits.trans (by decide)
  obtain ⟨raw, rawShades⟩ := exists_shades deep word context.palette.depthOldest
    context.palette.depthRecent
  obtain ⟨smooth, smoothShades⟩ := exists_shades deep word context.palette.depthTrendOldest
    context.palette.depthTrendRecent
  have ofVariant {variant : Overlay.Variant}
      (declared : chart.declare context =
        .ok (Overlay.drawingOf context variant folds stop width))
      (lower : Overlay.lowerToken variant = if chart = overlap then "g_min" else "0") :
      ∃ drawing, chart.declare context = .ok drawing ∧
        Counts (if chart = overlap then "g_min" else "0") context.trendWindow depth
          drawing.arguments ∧
        ∃ raw smooth, Draws context.palette depth raw smooth drawing.arguments :=
    ⟨_, declared, lower ▸ Overlay.counts_drawingOf fits declared, raw, smooth,
      Overlay.draws_drawingOf declared rawShades smoothShades⟩
  cases chart with
  | normal | diff | spread => exact nomatch overlay
  | overlap | overlapDiff => exact ofVariant (Overlay.declare_of_span folds window span) rfl

/-- The older one of two stretches is drawn first. -/
theorem declare_stretches_twoHours :
    overlap.isOverlay = true ∧ twoHours.window = .overlay "now" 3600 2 ∧
      overlaySpan 3600 2 = .ok 7200 ∧
      ∃ drawing, overlap.declare twoHours = .ok drawing ∧
        declaring "r_min" drawing.arguments = ["CDEF:r_min=r_i0_min,r_i1_min,MINNAN"] ∧
        drawing.arguments.filter drawsStretch =
          ["LINE1:r_i1_avg#00FFFF7F::skipscale", "LINE1:r_i0_avg#FFFF007F::skipscale",
            "LINE1:t_i1_avg#007F7F:-1,", "LINE1:t_i0_avg#7F7F00:-0,"] := by
  obtain ⟨drawing, declared, counts, raw, smooth, draws⟩ :=
    @declare_stretches overlap rfl twoHours "now" 3600 2 7200 rfl rfl
  refine ⟨rfl, rfl, rfl, drawing, declared, counts.least, ?_⟩
  have range : (List.range 2).reverse = [1, 0] := rfl
  rw [draws.lines, range]
  simp only [List.map_cons, List.map_nil, draws.rawShades.recent, draws.smoothShades.recent]
  rw [draws.rawShades.oldest (by decide), draws.smoothShades.oldest (by decide)]
  rfl

end Chart

end MainsCharts
