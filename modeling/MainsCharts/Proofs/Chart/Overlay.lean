import MainsCharts.Chart
import MainsCharts.Proofs.Expression.Reading

/-!
# What an overlay consists of

An overlay folds the series of its stretches into six expressions: the least and the
greatest value, three averages and the number of stretches without data.  With one
stretch or more all of them can be built, so an overlay is declared exactly when its
window is one whose span can be computed (`Chart.exists_declare_iff`).
Its drawing is then given without any check left in it (`drawingOf`).
-/

namespace MainsCharts

set_option autoImplicit false

namespace Expression

/-- An associative operator can be folded over one operand or more. -/
theorem exists_chain (symbol : Operator) (associative : symbol.isAssociative = true)
    {operands : List Expression} (nonempty : operands ≠ []) :
    ∃ built, chain symbol operands = .ok built := by
  match operands, nonempty with
  | [operand], _ => exact ⟨operand, by simp only [chain, if_pos associative]⟩
  | first :: second :: rest, _ =>
      exact ⟨.sequence (first :: links symbol (second :: rest)), by
        simp only [chain, if_pos associative]⟩

/-- One operand or more have an average. -/
theorem exists_average {operands : List Expression} (nonempty : operands ≠ []) :
    ∃ built, average operands = .ok built :=
  ⟨_, if_neg (by rwa [List.isEmpty_iff])⟩

end Expression

theorem overlaySpan_eq_ok_iff {width depth total : Nat} :
    overlaySpan width depth = .ok total ↔
      0 < width ∧ 0 < depth ∧ width * depth ≤ Numeral.greatestSigned ∧ total = width * depth := by
  unfold overlaySpan
  split
  · rename_i empty
    constructor
    · intro failed
      exact nomatch failed
    · rintro ⟨wide, deep, _⟩
      omega
  · rename_i positive
    split
    · rename_i fits
      rw [Except.ok.injEq]
      constructor
      · rintro rfl
        exact ⟨by omega, by omega, fits, rfl⟩
      · rintro ⟨_, _, _, rfl⟩
        rfl
    · rename_i tooLong
      constructor
      · intro failed
        exact nomatch failed
      · rintro ⟨_, _, fits, _⟩
        exact absurd fits tooLong

/-- Whether an element draws something, or says something in the legend, without declaring or
moving a series. -/
def Element.isDrawn : Element → Bool
  | .comment _ | .alignLeft | .tick _ _ _ _ | .line _ _ _ _ _ | .rule _ _ _ _ | .report _ _ => true
  | .stored _ _ _ _ _ | .derived _ _ | .scalar _ _ | .shift _ _ | .print _ _ => false

namespace Overlay

open Drawing

/-- Every line of a gradient is that of a stretch. -/
theorem of_mem_stretchLines {first second : Color} {depth : Nat} {line : Nat → Color → Element}
    {element : Element}
    (member : element ∈ stretchLines (Color.gradient first second depth) line) :
    ∃ stretch < depth, ∃ color, element = line stretch color := by
  obtain ⟨⟨color, stretch⟩, indexed, rfl⟩ := List.mem_map.mp member
  have bounded := List.snd_lt_of_mem_zipIdx (List.mem_reverse.mp indexed)
  rw [Color.length_gradient] at bounded
  exact ⟨stretch, by simpa using bounded, color, rfl⟩

/-- Whether one stretch has data, as an operand for each stretch. -/
def absences (depth : Nat) : List Expression :=
  (List.range depth).map fun stretch => .unary .isUnknown (series (rawName stretch "avg"))

/-- The expressions that an overlay folds over all its stretches. -/
structure Folds (depth : Nat) where
  least : Expression
  greatest : Expression
  raw : Expression
  inner : Expression
  smooth : Expression
  missing : Expression
  least_eq : Expression.chain .minimumKnown (each depth fun stretch => rawName stretch "min") =
    .ok least
  greatest_eq : Expression.chain .maximumKnown (each depth fun stretch => rawName stretch "max") =
    .ok greatest
  raw_eq : Expression.average (each depth fun stretch => rawName stretch "avg") = .ok raw
  inner_eq : Expression.average (each depth clippedName) = .ok inner
  smooth_eq : Expression.average (each depth trendName) = .ok smooth
  missing_eq : Expression.chain .add (absences depth) = .ok missing

theorem each_ne_nil {depth : Nat} (positive : 0 < depth) (name : Nat → String) :
    each depth name ≠ [] := by
  rw [each, ne_eq, List.map_eq_nil_iff, List.range_eq_nil]
  omega

theorem exists_folds {depth : Nat} (positive : 0 < depth) : Nonempty (Folds depth) := by
  have absent : absences depth ≠ [] := by
    rw [absences, ne_eq, List.map_eq_nil_iff, List.range_eq_nil]
    omega
  obtain ⟨least, least_eq⟩ := Expression.exists_chain .minimumKnown rfl
    (each_ne_nil positive fun stretch => rawName stretch "min")
  obtain ⟨greatest, greatest_eq⟩ := Expression.exists_chain .maximumKnown rfl
    (each_ne_nil positive fun stretch => rawName stretch "max")
  obtain ⟨raw, raw_eq⟩ := Expression.exists_average
    (each_ne_nil positive fun stretch => rawName stretch "avg")
  obtain ⟨inner, inner_eq⟩ := Expression.exists_average (each_ne_nil positive clippedName)
  obtain ⟨smooth, smooth_eq⟩ := Expression.exists_average (each_ne_nil positive trendName)
  obtain ⟨missing, missing_eq⟩ := Expression.exists_chain .add rfl absent
  exact ⟨⟨least, greatest, raw, inner, smooth, missing, least_eq, greatest_eq, raw_eq, inner_eq,
    smooth_eq, missing_eq⟩⟩

variable (context : ChartContext) (variant : Variant) {depth : Nat} (folds : Folds depth)

/-- The extremes of an overlay. -/
def extremesOf : List Element :=
  [.derived "r_min" folds.least, .derived "r_max" folds.greatest] ++
    whenever variant.clipsBelow [percentile "g_min" "r_min" context.lowerPercentile] ++
    [percentile "g_max" "r_max" context.upperPercentile]

/-- The averages of an overlay. -/
def averagesOf : List Element :=
  [.derived "r_avg" folds.raw, .derived "f_avg" folds.inner, .derived "t_avg" folds.smooth,
    reduction "g_avg" .seriesAverage "f_avg"]

/-- The series that are marked in an overlay. -/
def markedOf (width : Nat) : List Element :=
  whenever variant.clipsBelow [comparison "e_min" .lessThan "r_min" "g_min"] ++
    [comparison "e_max" .greaterThan "r_max" "g_max",
      absence "e_miss_all" "r_avg",
      .derived "e_miss_some" folds.missing,
      boundaries width (rawName 0 "avg")]

/-- The series of an overlay. -/
def seriesOf (stop : String) (width : Nat) : List Element :=
  slices context.path variant.source stop (width * depth) depth ++
    extremesOf context variant folds ++
    (List.range depth).flatMap (stretchTrend variant context.trendWindow) ++
    averagesOf folds ++ markedOf variant folds width

/-- What is drawn of an overlay. -/
def drawnOf (depth : Nat) : List Element :=
  markers context.palette variant ++ [measurementsHeading "Измерения:" context.trendWindow] ++
    rawLines context.palette depth ++ measurements context.palette variant ++
    [.comment ("Глубина (" ++ Nat.repr depth ++ "):")] ++
    trendLines context.palette depth ++ closing context

/-- What is drawn of an overlay declares nothing. -/
theorem isDrawn_drawnOf : ∀ element ∈ drawnOf context variant depth, element.isDrawn = true := by
  have lines {first second : Color} {line : Nat → Color → Element}
      (drawn : ∀ stretch color, (line stretch color).isDrawn = true) :
      ∀ element ∈ stretchLines (Color.gradient first second depth) line,
        element.isDrawn = true := by
    intro element member
    obtain ⟨stretch, _, color, rfl⟩ := of_mem_stretchLines member
    exact drawn stretch color
  have ticks : ∀ element ∈ markers context.palette variant, element.isDrawn = true := by
    cases below : variant.clipsBelow <;>
      simp [markers, frequencyLimits, Element.heading, Element.isDrawn, below]
  have measured : ∀ element ∈ measurements context.palette variant, element.isDrawn = true := by
    cases below : variant.clipsBelow <;> simp [measurements, whenever, Element.isDrawn, below]
  have last : ∀ element ∈ closing context, element.isDrawn = true := by
    simp [closing, Element.noiseRemark, Element.isDrawn]
  simp only [drawnOf, List.forall_mem_append, List.forall_mem_singleton]
  exact ⟨⟨⟨⟨⟨⟨ticks, rfl⟩, lines fun _ _ => rfl⟩, measured⟩, rfl⟩, lines fun _ _ => rfl⟩, last⟩

/-- An overlay with nothing left to check. -/
def drawingOf (stop : String) (width : Nat) : Drawing where
  title := title variant width depth
  elements := seriesOf context variant folds stop width ++ drawnOf context variant depth

theorem extremes_eq : extremes context variant depth = .ok (extremesOf context variant folds) := by
  rw [extremes, folds.least_eq, folds.greatest_eq]
  rfl

theorem averages_eq : averages depth = .ok (averagesOf folds) := by
  rw [averages, folds.raw_eq, folds.inner_eq, folds.smooth_eq]
  rfl

theorem marked_eq (width : Nat) :
    marked variant width depth = .ok (markedOf variant folds width) := by
  have missing := folds.missing_eq
  rw [absences] at missing
  rw [marked, missing]
  rfl

variable {context variant}

/-- An overlay whose span can be computed is declared. -/
theorem declare_of_span {stop : String} {width total : Nat}
    (window : context.window = .overlay stop width depth)
    (span : overlaySpan width depth = .ok total) :
    declare variant context = .ok (drawingOf context variant folds stop width) := by
  obtain ⟨_, _, _, rfl⟩ := overlaySpan_eq_ok_iff.mp span
  rw [declare, window, drawingOf, seriesOf, drawnOf]
  simp only [declareStretches, span, extremes_eq context variant folds, averages_eq folds,
    marked_eq variant folds, List.append_assoc]
  rfl

/-- An overlay that is declared has a window whose span can be computed. -/
theorem of_declare_eq_ok {drawing : Drawing} (declared : declare variant context = .ok drawing) :
    ∃ stop width depth, ∃ total, ∃ folds : Folds depth,
      context.window = .overlay stop width depth ∧ overlaySpan width depth = .ok total ∧
      drawing = drawingOf context variant folds stop width := by
  cases window : context.window with
  | floating start stop =>
      rw [declare, window] at declared
      exact nomatch declared
  | overlay stop width depth =>
      cases span : overlaySpan width depth with
      | error cause =>
          simp only [declare, window, declareStretches, span] at declared
          exact nomatch declared
      | ok total =>
          obtain ⟨_, positive, _⟩ := overlaySpan_eq_ok_iff.mp span
          obtain ⟨folds⟩ := exists_folds positive
          rw [declare_of_span folds window span] at declared
          exact ⟨stop, width, depth, total, folds, rfl, span, (Except.ok.inj declared).symm⟩

end Overlay

namespace Chart

/-- Whether a context has the window that a chart needs: for an overlay, one whose span
can be computed. -/
def Suits (chart : Chart) (context : ChartContext) : Prop :=
  chart.isOverlay = true → ∃ stop width depth total,
    context.window = .overlay stop width depth ∧ overlaySpan width depth = .ok total

/-- **A chart is declared exactly in the contexts that suit it.** -/
theorem exists_declare_iff {chart : Chart} {context : ChartContext} :
    (∃ drawing, chart.declare context = .ok drawing) ↔ chart.Suits context := by
  have overlay {variant : Overlay.Variant} (isVariant : chart.declare = Overlay.declare variant)
      (isOverlay : chart.isOverlay = true) :
      (∃ drawing, chart.declare context = .ok drawing) ↔ chart.Suits context := by
    rw [isVariant]
    constructor
    · rintro ⟨drawing, declared⟩ _
      obtain ⟨stop, width, depth, total, _, window, span, _⟩ := Overlay.of_declare_eq_ok declared
      exact ⟨stop, width, depth, total, window, span⟩
    · intro suits
      obtain ⟨stop, width, depth, total, window, span⟩ := suits isOverlay
      obtain ⟨folds⟩ := Overlay.exists_folds (overlaySpan_eq_ok_iff.mp span).2.1
      exact ⟨_, Overlay.declare_of_span folds window span⟩
  cases chart with
  | normal | diff | spread =>
      constructor
      · intro _ isOverlay
        exact nomatch isOverlay
      · intro _
        exact ⟨_, rfl⟩
  | overlap | overlapDiff => exact overlay rfl rfl

end Chart

end MainsCharts
