import MainsCharts.Proofs.Chart.Scope
import MainsCharts.Proofs.Expression.Compilation

/-!
# The programs of the charts

The renderer runs the program of each derived series with the arities of its
operators.  Here the machine knows nothing of values but which of them are whole
numbers, because an average takes as many operands as the number above them says.
Every program of every chart runs through on it and leaves one value, and the scope of
the chart says what the machine does not look at: each of its tokens is an operator, a
number or a series declared before (`declare_balanced`).

The elements are balanced because their operands are: names, numbers and the trend
window push one value each.  In an overlay the chains have as many links as there
are stretches, and the count of an average is their number, which is positive and
fits sixty-four bits with a sign whenever the span of the overlay does.
-/

namespace MainsCharts

set_option autoImplicit false

open Numeral

/-- The machine that knows arities only, and the whole numbers among the values. -/
def arities : Meaning (Option Nat) where
  operand token := token.toNat?
  apply _ _ := none
  count? value := value

/-- An element of a drawing: its program, if it has one, is balanced, and it does not
print into the renderer's report. -/
def Element.Drawable : Element → Prop
  | .derived _ value => arities.Balanced value
  | .print _ _ => False
  | _ => True

theorem balanced_of_isName {name : String} (named : isName name = true) :
    arities.Balanced (.series name) :=
  Meaning.balanced_series (ofToken?_eq_none_of_isName named)

theorem balanced_ofWord (value : Nat) : arities.Balanced (.ofWord value) :=
  Meaning.balanced_integer (asSigned value)

section Charts

attribute [local simp] Element.Drawable balanced_of_isName balanced_ofWord
  Meaning.balanced_number Meaning.Balanced.unary Meaning.Balanced.binary Meaning.Balanced.drop
  Meaning.Balanced.tick Drawing.series Drawing.number Drawing.percentile Drawing.clipped
  Drawing.reduction Drawing.comparison Drawing.absence Drawing.boundaries
  Drawing.measurementsHeading Drawing.frequencyLimits Element.trend Element.heading
  Element.noiseRemark List.forall_mem_append

/-! ## Floating windows -/

theorem drawable_frequency (context : ChartContext) :
    ∀ element ∈ (Frequency.declare context).elements, element.Drawable := by
  simp +decide [Frequency.declare, Frequency.clipping, Frequency.trends, Frequency.markers,
    Frequency.measurements]

theorem drawable_rate (context : ChartContext) :
    ∀ element ∈ (Rate.declare context).elements, element.Drawable := by
  simp +decide [Rate.declare, Rate.clipping, Rate.trends, Rate.markers, Rate.measurements]

theorem drawable_spread (context : ChartContext) :
    ∀ element ∈ (Spread.declare context).elements, element.Drawable := by
  simp +decide [Spread.declare, Spread.clipping, Spread.markers, Spread.measurements]

/-! ## Overlays -/

namespace Overlay

variable {variant : Variant} {context : ChartContext} {depth : Nat}

theorem balanced_each {name : Nat → String} (named : ∀ stretch, isName (name stretch) = true) :
    ∀ operand ∈ each depth name, arities.Balanced operand := by
  intro operand member
  obtain ⟨stretch, _, rfl⟩ := List.mem_map.mp member
  exact balanced_of_isName (named stretch)

theorem balanced_absences : ∀ operand ∈ absences depth, arities.Balanced operand := by
  intro operand member
  obtain ⟨stretch, _, rfl⟩ := List.mem_map.mp member
  exact (balanced_of_isName (isName_rawName (by decide) stretch)).unary rfl

/-- The average of one operand for each stretch takes all of them and nothing else. -/
theorem balanced_averageOfEach {name : Nat → String} {built : Expression}
    (fits : depth ≤ greatestSigned) (named : ∀ stretch, isName (name stretch) = true)
    (averaged : Expression.average (each depth name) = .ok built) : arities.Balanced built := by
  have number : (each depth name).length = depth := by
    rw [each, List.length_map, List.length_range]
  refine Meaning.balanced_average averaged (by rwa [number]) ?_ (balanced_each named)
  exact Nat.toNat?_repr _

theorem drawable_slices (path source stop : String) (total : Nat) :
    ∀ element ∈ slices path source stop total depth, element.Drawable := by
  intro element member
  obtain ⟨stretch, _, inSlice⟩ := List.mem_flatMap.mp member
  rcases List.mem_append.mp inSlice with isStored | isMoved
  · obtain ⟨_, _, rfl⟩ := List.mem_map.mp isStored
    trivial
  · obtain ⟨_, _, rfl⟩ := List.mem_map.mp isMoved
    trivial

theorem drawable_stretchTrend (trendWindow stretch : Nat) :
    ∀ element ∈ stretchTrend variant trendWindow stretch, element.Drawable := by
  have named : isName (rawName stretch "avg") = true := isName_rawName (by decide) stretch
  cases below : variant.clipsBelow <;>
    simp +decide [stretchTrend, lowerEnd, below, named, isName_clippedName]

theorem drawable_seriesOf (folds : Folds depth) (fits : depth ≤ greatestSigned) (stop : String)
    (width : Nat) : ∀ element ∈ seriesOf context variant folds stop width, element.Drawable := by
  have least : arities.Balanced folds.least :=
    Meaning.balanced_chain folds.least_eq (balanced_each (isName_rawName (by decide)))
  have greatest : arities.Balanced folds.greatest :=
    Meaning.balanced_chain folds.greatest_eq (balanced_each (isName_rawName (by decide)))
  have raw : arities.Balanced folds.raw :=
    balanced_averageOfEach fits (isName_rawName (by decide)) folds.raw_eq
  have inner : arities.Balanced folds.inner :=
    balanced_averageOfEach fits isName_clippedName folds.inner_eq
  have smooth : arities.Balanced folds.smooth :=
    balanced_averageOfEach fits isName_trendName folds.smooth_eq
  have missing : arities.Balanced folds.missing :=
    Meaning.balanced_chain folds.missing_eq balanced_absences
  have extremes : ∀ element ∈ extremesOf context variant folds, element.Drawable := by
    cases below : variant.clipsBelow <;> simp [extremesOf, whenever, below, least, greatest]
  have averages : ∀ element ∈ averagesOf folds, element.Drawable := by
    simp [averagesOf, raw, inner, smooth]
  have marked : ∀ element ∈ markedOf variant folds width, element.Drawable := by
    cases below : variant.clipsBelow <;>
      simp +decide [markedOf, whenever, below, missing]
  have trends : ∀ element ∈ (List.range depth).flatMap (stretchTrend variant context.trendWindow),
      element.Drawable := by
    intro element member
    obtain ⟨stretch, _, inTrend⟩ := List.mem_flatMap.mp member
    exact drawable_stretchTrend context.trendWindow stretch element inTrend
  simp only [seriesOf, List.forall_mem_append]
  exact ⟨⟨⟨⟨drawable_slices _ _ _ _, extremes⟩, trends⟩, averages⟩, marked⟩

theorem drawable_drawnOf : ∀ element ∈ drawnOf context variant depth, element.Drawable := by
  intro element member
  have drawn := isDrawn_drawnOf context variant element member
  cases element with
  | derived | print => exact nomatch drawn
  | _ => trivial

end Overlay

/-! ## All charts -/

namespace Chart

variable {chart : Chart} {context : ChartContext} {drawing : Drawing}

theorem drawable_elements (declared : chart.declare context = .ok drawing) :
    ∀ element ∈ drawing.elements, element.Drawable := by
  have overlay {variant : Overlay.Variant}
      (overlaid : Overlay.declare variant context = .ok drawing) :
      ∀ element ∈ drawing.elements, element.Drawable := by
    obtain ⟨stop, width, depth, total, folds, _, span, rfl⟩ := Overlay.of_declare_eq_ok overlaid
    obtain ⟨wide, _, fits, _⟩ := overlaySpan_eq_ok_iff.mp span
    have shallow : depth ≤ greatestSigned := (Nat.le_mul_of_pos_left depth wide).trans fits
    exact List.forall_mem_append.mpr
      ⟨Overlay.drawable_seriesOf folds shallow stop width, Overlay.drawable_drawnOf⟩
  cases chart with
  | normal =>
      obtain rfl := Except.ok.inj declared
      exact drawable_frequency context
  | diff =>
      obtain rfl := Except.ok.inj declared
      exact drawable_rate context
  | spread =>
      obtain rfl := Except.ok.inj declared
      exact drawable_spread context
  | overlap | overlapDiff => exact overlay declared

/-- Nothing in a drawing is printed into the renderer's report. -/
theorem not_printed (declared : chart.declare context = .ok drawing) :
    ∀ argument ∈ drawing.arguments, Text.after? "PRINT:".toList argument.toList = none := by
  intro argument member
  rcases List.mem_cons.mp member with rfl | member
  · decide
  rcases List.mem_cons.mp member with rfl | member
  · obtain ⟨first, rest, written, foreign⟩ := head_title declared
    have other : 'P' ≠ first := by
      rintro rfl
      exact foreign (by decide)
    rw [written]
    exact if_neg other
  · obtain ⟨element, isElement, rfl⟩ := List.mem_map.mp member
    have drawable := drawable_elements declared element isElement
    cases element with
    | print => exact drawable.elim
    | _ => simp [Element.text, Text.after?]

/-- An argument that derives a series names it, and what stands behind its first equals sign
runs through. -/
theorem run_programOf (declared : chart.declare context = .ok drawing) {argument : String}
    (member : argument ∈ drawing.arguments)
    (derives : SeriesKind.ofText? argument.toList = some .derived) :
    ∃ name value, declaredName? argument = some name ∧
      arities.run (programOf argument) [] = some [value] := by
  have untitled : SeriesKind.ofText? "--title".toList = none :=
    (unread_of_not_mem_openingLetters rfl (by decide)).1
  rcases List.mem_cons.mp member with rfl | member
  · rw [untitled] at derives
    exact nomatch derives
  rcases List.mem_cons.mp member with rfl | member
  · obtain ⟨first, rest, written, foreign⟩ := head_title declared
    rw [(unread_of_not_mem_openingLetters written foreign).1] at derives
    exact nomatch derives
  obtain ⟨element, isElement, rfl⟩ := List.mem_map.mp member
  have drawable := drawable_elements declared element isElement
  have wellNamed : element.isWellNamed = true :=
    isWellNamed_of_isScoped (isScoped_declare declared) element
      (List.mem_append_left _ isElement)
  rw [Element.ofText?_text] at derives
  cases element with
  | derived name value =>
      obtain ⟨result, done⟩ := drawable []
      refine ⟨name, result, ?_, ?_⟩
      · rw [Element.isWellNamed, Bool.and_eq_true] at wellNamed
        exact Element.declaredName?_opened .derived (not_mem_of_isName wellNamed.1 rfl) value.text
      · have program : programOf (Element.derived name value).text = value.tokens :=
          Element.programOf_text (by decide) wellNamed
        rw [program, done]
  | _ => exact nomatch derives

/-- **Every derived series of a chart has a balanced program.**  The text behind its first
equals sign is cut at the commas.  Each token is an operator, a number or a series that an
argument before this one declares, and the program runs through with the arities of the
operators: it never takes a value that is not there, and ends with exactly one. -/
theorem declare_balanced (declared : chart.declare context = .ok drawing) :
    ∀ earlier argument later, drawing.arguments = earlier ++ argument :: later →
      SeriesKind.ofText? argument.toList = some .derived →
        (∀ token ∈ programOf argument, IsInstruction (earlier.filterMap declaration?) token) ∧
          ∃ name value, declaredName? argument = some name ∧
            arities.run (programOf argument) [] = some [value] := by
  intro earlier argument later split derives
  have member : argument ∈ drawing.arguments := by
    rw [split]
    exact List.mem_append_right _ List.mem_cons_self
  have inScope : WellScoped drawing.arguments := (wellScoped_of_declare declared).of_append
  exact ⟨inScope.isInstruction split derives, run_programOf declared member derives⟩

/-- The average of two stretches: two series, their number and the operator. -/
theorem declare_balanced_twoHours :
    ∃ drawing earlier later, overlap.declare twoHours = .ok drawing ∧
      drawing.arguments = earlier ++ "CDEF:r_avg=r_i0_avg,r_i1_avg,2,AVG" :: later ∧
      (∀ token ∈ ["r_i0_avg", "r_i1_avg", "2", "AVG"],
        IsInstruction (earlier.filterMap declaration?) token) ∧
      ∃ value, arities.run ["r_i0_avg", "r_i1_avg", "2", "AVG"] [] = some [value] := by
  have suits : overlap.Suits twoHours := fun _ => ⟨"now", 3600, 2, 7200, rfl, rfl⟩
  obtain ⟨drawing, declared⟩ := exists_declare_iff.mpr suits
  have averaged : (overlap.declare twoHours).toOption.bind (·.arguments[24]?) =
      some "CDEF:r_avg=r_i0_avg,r_i1_avg,2,AVG" := by decide +kernel
  rw [declared] at averaged
  obtain ⟨earlier, later, split⟩ := List.append_of_mem (List.mem_of_getElem? averaged)
  have program : programOf "CDEF:r_avg=r_i0_avg,r_i1_avg,2,AVG" =
      ["r_i0_avg", "r_i1_avg", "2", "AVG"] := by decide
  obtain ⟨instructed, _, value, _, done⟩ := declare_balanced declared _ _ _ split (by decide)
  rw [program] at instructed done
  exact ⟨drawing, earlier, later, declared, split, instructed, value, done⟩

end Chart

end Charts

end MainsCharts
