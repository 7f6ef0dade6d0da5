import MainsCharts.Proofs.Chart.Scope
import MainsCharts.Proofs.Expression.Operators
import Std.Data.String.ToInt

/-!
# The trends of a chart

Every series that is averaged over a moving window is followed by the element that moves it back
(`smoothed_elements`), and the window and the shift are those of the context.  The elements that
are not part of a trend do not average over a moving window, since their operators do not.

The written arguments say the same (`centred_arguments`): the window of a trend is written as the
signed number of sixty-four bits, and the shift is half of that number.
-/

namespace MainsCharts

set_option autoImplicit false

open Expression Numeral

/-! ## Elements -/

/-- That an element averages over no moving window. -/
def Element.IsTrendless : Element → Prop
  | .derived _ value => Operator.trendKnown ∉ value.operators
  | _ => True

/-- That every average over a moving window is that of a trend, and moved back. -/
inductive Smoothed (window : Nat) : List Element → Prop
  | nil : Smoothed window []
  | plain {element : Element} {rest : List Element} (trendless : element.IsTrendless)
      (others : Smoothed window rest) : Smoothed window (element :: rest)
  | trend {name series : String} {rest : List Element} (others : Smoothed window rest) :
      Smoothed window (Element.trend name series window ++ rest)

namespace Smoothed

variable {window : Nat} {elements others : List Element}

theorem of_forall (trendless : ∀ element ∈ elements, element.IsTrendless) :
    Smoothed window elements := by
  induction elements with
  | nil => exact .nil
  | cons element elements ih =>
      obtain ⟨first, rest⟩ := List.forall_mem_cons.mp trendless
      exact .plain first (ih rest)

theorem append (first : Smoothed window elements) (second : Smoothed window others) :
    Smoothed window (elements ++ others) := by
  induction first with
  | nil => exact second
  | plain trendless _ ih => exact .plain trendless ih
  | trend _ ih =>
      rw [List.append_assoc]
      exact .trend ih

theorem single (name series : String) : Smoothed window (Element.trend name series window) := by
  rw [← List.append_nil (Element.trend name series window)]
  exact .trend .nil

theorem flatMap {Index : Type} {part : Index → List Element}
    (parts : ∀ index, Smoothed window (part index)) (indices : List Index) :
    Smoothed window (indices.flatMap part) := by
  induction indices with
  | nil => exact .nil
  | cons index indices ih => exact (parts index).append ih

end Smoothed

section Charts

attribute [local simp] Element.IsTrendless operators operatorsOfAll Drawing.series Drawing.number
  Drawing.percentile Drawing.clipped Drawing.reduction Drawing.comparison Drawing.absence
  Drawing.boundaries Drawing.measurementsHeading Drawing.frequencyLimits Element.heading
  Element.noiseRemark List.forall_mem_append

theorem trendKnown_not_mem_tick (granularity : Granularity) (dummy : String) :
    Operator.trendKnown ∉ (granularity.tick (.series dummy)).operators :=
  not_mem_operators_tick (by decide) List.not_mem_nil granularity

attribute [local simp] trendKnown_not_mem_tick

/-! ## Floating windows -/

theorem smoothed_frequency (context : ChartContext) :
    Smoothed context.trendWindow (Frequency.declare context).elements := by
  have clipping : ∀ element ∈ Frequency.clipping context, element.IsTrendless := by
    simp [Frequency.clipping]
  have markers : ∀ element ∈ Frequency.markers context, element.IsTrendless := by
    simp [Frequency.markers]
  have limits : ∀ element ∈ Drawing.frequencyLimits context.palette, element.IsTrendless := by
    simp
  have measurements : ∀ element ∈ Frequency.measurements context, element.IsTrendless := by
    simp [Frequency.measurements]
  have trends : Smoothed context.trendWindow (Frequency.trends context) :=
    ((Smoothed.single "t_min" "f_min").append (.single "t_max" "f_max")).append
      (.single "t_avg" "f_avg")
  exact ((((Smoothed.of_forall clipping).append trends).append (.of_forall markers)).append
    (.of_forall limits)).append (.of_forall measurements)

theorem smoothed_rate (context : ChartContext) :
    Smoothed context.trendWindow (Rate.declare context).elements := by
  have clipping : ∀ element ∈ Rate.clipping context, element.IsTrendless := by
    simp [Rate.clipping]
  have markers : ∀ element ∈ Rate.markers context, element.IsTrendless := by
    simp [Rate.markers]
  have measurements : ∀ element ∈ Rate.measurements context, element.IsTrendless := by
    simp [Rate.measurements]
  have trends : Smoothed context.trendWindow (Rate.trends context) :=
    ((Smoothed.single "t_min" "f_min").append (.single "t_max" "f_max")).append
      (.single "t_avg" "f_avg")
  exact (((Smoothed.of_forall clipping).append trends).append (.of_forall markers)).append
    (.of_forall measurements)

theorem smoothed_spread (context : ChartContext) :
    Smoothed context.trendWindow (Spread.declare context).elements := by
  have clipping : ∀ element ∈ Spread.clipping context, element.IsTrendless := by
    simp [Spread.clipping]
  have markers : ∀ element ∈ Spread.markers context, element.IsTrendless := by
    simp [Spread.markers]
  have measurements : ∀ element ∈ Spread.measurements context, element.IsTrendless := by
    simp [Spread.measurements]
  exact (((Smoothed.of_forall clipping).append (.single "t_diff" "r_diff")).append
    (.of_forall markers)).append (.of_forall measurements)

/-! ## Overlays -/

namespace Overlay

variable {variant : Variant} {context : ChartContext} {depth : Nat}

theorem trendKnown_not_mem_each (name : Nat → String) :
    ∀ operand ∈ each depth name, Operator.trendKnown ∉ operand.operators := by
  intro operand member
  obtain ⟨stretch, _, rfl⟩ := List.mem_map.mp member
  exact List.not_mem_nil

theorem trendKnown_not_mem_absences :
    ∀ operand ∈ absences depth, Operator.trendKnown ∉ operand.operators := by
  intro operand member
  obtain ⟨stretch, _, rfl⟩ := List.mem_map.mp member
  simp

theorem isTrendless_slices (path source stop : String) (total : Nat) :
    ∀ element ∈ slices path source stop total depth, element.IsTrendless := by
  intro element member
  obtain ⟨stretch, _, inSlice⟩ := List.mem_flatMap.mp member
  rcases List.mem_append.mp inSlice with isStored | isMoved
  · obtain ⟨_, _, rfl⟩ := List.mem_map.mp isStored
    trivial
  · obtain ⟨_, _, rfl⟩ := List.mem_map.mp isMoved
    trivial

theorem isTrendless_drawnOf : ∀ element ∈ drawnOf context variant depth, element.IsTrendless := by
  intro element member
  have drawn := isDrawn_drawnOf context variant element member
  cases element with
  | derived => exact nomatch drawn
  | _ => trivial

theorem smoothed_seriesOf (folds : Folds depth) (stop : String) (width : Nat) :
    Smoothed context.trendWindow (seriesOf context variant folds stop width) := by
  have least := not_mem_operators_chain folds.least_eq (by decide) (trendKnown_not_mem_each _)
  have greatest := not_mem_operators_chain folds.greatest_eq (by decide) (trendKnown_not_mem_each _)
  have raw := not_mem_operators_average folds.raw_eq (by decide) (trendKnown_not_mem_each _)
  have inner := not_mem_operators_average folds.inner_eq (by decide) (trendKnown_not_mem_each _)
  have smooth := not_mem_operators_average folds.smooth_eq (by decide) (trendKnown_not_mem_each _)
  have missing := not_mem_operators_chain folds.missing_eq (by decide) trendKnown_not_mem_absences
  have extremes : ∀ element ∈ extremesOf context variant folds, element.IsTrendless := by
    cases below : variant.clipsBelow <;> simp [extremesOf, whenever, below, least, greatest]
  have averages : ∀ element ∈ averagesOf folds, element.IsTrendless := by
    simp [averagesOf, raw, inner, smooth]
  have marked : ∀ element ∈ markedOf variant folds width, element.IsTrendless := by
    cases below : variant.clipsBelow <;> simp [markedOf, whenever, below, missing]
  have stretch (stretch : Nat) :
      Smoothed context.trendWindow (stretchTrend variant context.trendWindow stretch) := by
    refine .plain ?_ (.single _ _)
    cases below : variant.clipsBelow <;> simp [lowerEnd, below]
  exact ((((Smoothed.of_forall (isTrendless_slices _ _ _ _)).append (.of_forall extremes)).append
    (.flatMap stretch _)).append (.of_forall averages)).append (.of_forall marked)

end Overlay

/-! ## All charts -/

namespace Chart

variable {chart : Chart} {context : ChartContext} {drawing : Drawing}

/-- **Every average over a moving window is moved back.** -/
theorem smoothed_elements (declared : chart.declare context = .ok drawing) :
    Smoothed context.trendWindow drawing.elements := by
  have overlay {variant : Overlay.Variant}
      (overlaid : Overlay.declare variant context = .ok drawing) :
      Smoothed context.trendWindow drawing.elements := by
    obtain ⟨stop, width, depth, total, folds, _, _, rfl⟩ := Overlay.of_declare_eq_ok overlaid
    exact (Overlay.smoothed_seriesOf folds stop width).append
      (.of_forall Overlay.isTrendless_drawnOf)
  cases chart with
  | normal =>
      obtain rfl := Except.ok.inj declared
      exact smoothed_frequency context
  | diff =>
      obtain rfl := Except.ok.inj declared
      exact smoothed_rate context
  | spread =>
      obtain rfl := Except.ok.inj declared
      exact smoothed_spread context
  | overlap | overlapDiff => exact overlay declared

/-- Every chart averages a series over the trend window. -/
theorem exists_trend (declared : chart.declare context = .ok drawing) :
    ∃ name series, .derived name (.binary .trendKnown (.series series)
      (.ofWord context.trendWindow)) ∈ drawing.elements := by
  have overlay {variant : Overlay.Variant}
      (overlaid : Overlay.declare variant context = .ok drawing) :
      ∃ name series, .derived name (.binary .trendKnown (.series series)
        (.ofWord context.trendWindow)) ∈ drawing.elements := by
    obtain ⟨stop, width, depth, total, folds, _, span, rfl⟩ := Overlay.of_declare_eq_ok overlaid
    obtain ⟨_, deep, _⟩ := overlaySpan_eq_ok_iff.mp span
    have first : 0 ∈ List.range depth := List.mem_range.mpr deep
    refine ⟨Overlay.trendName 0, Overlay.clippedName 0, ?_⟩
    simp only [Overlay.drawingOf, Overlay.seriesOf, List.mem_append, List.mem_flatMap]
    exact .inl (.inl (.inl (.inr ⟨0, first, List.mem_cons_of_mem _ List.mem_cons_self⟩)))
  cases chart with
  | normal =>
      obtain rfl := Except.ok.inj declared
      exact ⟨"t_min", "f_min", by simp [Frequency.declare, Frequency.trends, Element.trend]⟩
  | diff =>
      obtain rfl := Except.ok.inj declared
      exact ⟨"t_min", "f_min", by simp [Rate.declare, Rate.trends, Element.trend]⟩
  | spread =>
      obtain rfl := Except.ok.inj declared
      exact ⟨"t_diff", "r_diff", by simp [Spread.declare, Element.trend]⟩
  | overlap | overlapDiff => exact overlay declared

end Chart

end Charts

/-! ## Arguments -/

/-- Whether an argument derives a series by averaging over a moving window. -/
def Averages (argument : String) : Prop :=
  SeriesKind.ofText? argument.toList = some .derived ∧ "TRENDNAN" ∈ programOf argument

/-- That every average over a moving window has the given window, and that the series is moved by
the given shift right behind it. -/
def Centred (window shift : Int) (arguments : List String) : Prop :=
  ∀ before argument after, arguments = before ++ argument :: after → Averages argument →
    ∃ name series, declaredName? argument = some name ∧
      programOf argument = [series, Int.repr window, "TRENDNAN"] ∧
      after.head? = some ("SHIFT:" ++ name ++ ":" ++ Int.repr shift)

namespace Centred

variable {window shift : Int} {arguments : List String} {argument : String}

theorem nil : Centred window shift [] :=
  fun _ _ _ split => absurd split.symm (List.append_ne_nil_of_right_ne_nil _ (List.cons_ne_nil _ _))

/-- An argument in front of others. -/
theorem cons (first : Averages argument → ∃ name series, declaredName? argument = some name ∧
      programOf argument = [series, Int.repr window, "TRENDNAN"] ∧
      arguments.head? = some ("SHIFT:" ++ name ++ ":" ++ Int.repr shift))
    (others : Centred window shift arguments) : Centred window shift (argument :: arguments) := by
  intro before other after split averages
  cases before with
  | nil =>
      obtain ⟨rfl, rfl⟩ := List.cons.inj split
      exact first averages
  | cons _ before => exact others before other after (List.cons.inj split).2 averages

theorem cons_of_not (plain : ¬ Averages argument) (others : Centred window shift arguments) :
    Centred window shift (argument :: arguments) :=
  others.cons fun averages => absurd averages plain

end Centred

/-- What is written for an element without a trend averages over no moving window. -/
theorem not_averages_text {element : Element} (trendless : element.IsTrendless)
    (wellNamed : element.isWellNamed = true) : ¬ Averages element.text := by
  rintro ⟨derives, averaged⟩
  rw [Element.ofText?_text] at derives
  cases element with
  | derived name value =>
      have program : programOf (Element.derived name value).text = value.tokens :=
        Element.programOf_text (by decide) wellNamed
      rw [program] at averaged
      have named : ∀ operand ∈ value.names, isName operand = true := by
        simp only [Element.isWellNamed, Bool.and_eq_true, List.all_eq_true] at wellNamed
        exact wellNamed.2.1
      exact trendless (mem_operators_of_mem_tokens (by decide) value named averaged)
  | _ => exact nomatch derives

/-- The tokens of a series averaged over a moving window. -/
theorem programOf_average {name series : String} {window : Nat}
    (wellNamed : (Element.derived name (.binary .trendKnown (.series series)
      (.ofWord window))).isWellNamed = true) :
    programOf (Element.derived name (.binary .trendKnown (.series series) (.ofWord window))).text =
      [series, Int.repr (asSigned window), "TRENDNAN"] := by
  refine (Element.programOf_text (by decide) wellNamed).trans ?_
  rw [tokens_binary]
  rfl

/-- **The written trends.** -/
theorem Smoothed.centred {window : Nat} {elements : List Element}
    (smoothed : Smoothed window elements)
    (wellNamed : ∀ element ∈ elements, element.isWellNamed = true) :
    Centred (asSigned window) (Int.fdiv (-asSigned window) 2) (elements.map Element.text) := by
  induction smoothed with
  | nil => exact .nil
  | plain trendless _ ih =>
      obtain ⟨first, rest⟩ := List.forall_mem_cons.mp wellNamed
      exact (ih rest).cons_of_not (not_averages_text trendless first)
  | @trend name series rest _ ih =>
      obtain ⟨pair, others⟩ := List.forall_mem_append.mp wellNamed
      obtain ⟨first, second, _⟩ : _ ∧ _ ∧ _ := by
        simpa only [Element.trend, List.forall_mem_cons] using pair
      have moved : ¬ Averages (Element.shift name (Int.fdiv (-asSigned window) 2)).text :=
        not_averages_text trivial second
      refine ((ih others).cons_of_not moved).cons fun _ =>
        ⟨name, series, ?_, programOf_average first, rfl⟩
      rw [Element.isWellNamed, Bool.and_eq_true] at first
      exact Element.declaredName?_opened .derived (not_mem_of_isName first.1 rfl) _

/-- **The arguments of a chart.**  Every average over a moving window has the trend window,
as a signed number of sixty-four bits, and is moved back by half of it. -/
theorem Chart.centred_arguments {chart : Chart} {context : ChartContext} {drawing : Drawing}
    (declared : chart.declare context = .ok drawing) :
    Centred (asSigned context.trendWindow) (Int.fdiv (-asSigned context.trendWindow) 2)
      drawing.arguments := by
  have wellNamed : ∀ element ∈ drawing.elements, element.isWellNamed = true := fun element member =>
    isWellNamed_of_isScoped (isScoped_declare declared) element (List.mem_append_left _ member)
  have unlike {argument : String} {first : Char} {rest : List Char}
      (written : argument.toList = first :: rest) (foreign : first ∉ openingLetters) :
      ¬ Averages argument := by
    rintro ⟨derives, _⟩
    rw [(unread_of_not_mem_openingLetters written foreign).1] at derives
    exact nomatch derives
  obtain ⟨first, rest, written, foreign⟩ := head_title declared
  exact (((smoothed_elements declared).centred wellNamed).cons_of_not
    (unlike written foreign)).cons_of_not (unlike rfl (by decide))

/-- A number is its own signed number exactly when it is not too large for one. -/
theorem asSigned_eq_self_iff (value : Nat) : asSigned value = value ↔ value ≤ greatestSigned := by
  rw [asSigned, Int.bmod, greatestWord, greatestSigned]
  split <;> omega

/-- **A trend averages over the window that was asked for** exactly when the window is not too
large for a signed number. -/
theorem Chart.centred_arguments_iff {chart : Chart} {context : ChartContext} {drawing : Drawing}
    (declared : chart.declare context = .ok drawing) :
    Centred context.trendWindow (Int.fdiv (-context.trendWindow) 2) drawing.arguments ↔
      context.trendWindow ≤ greatestSigned := by
  have written := centred_arguments declared
  constructor
  · intro asked
    obtain ⟨name, series, member⟩ := exists_trend declared
    have program := programOf_average (isWellNamed_of_isScoped (isScoped_declare declared) _
      (List.mem_append_left _ member))
    have averages : Averages (Element.derived name (.binary .trendKnown (.series series)
        (.ofWord context.trendWindow))).text :=
      ⟨Element.ofText?_text _, by rw [program]; exact List.mem_of_getLast? rfl⟩
    obtain ⟨before, after, split⟩ := List.append_of_mem (show _ ∈ drawing.arguments from
      List.mem_cons_of_mem "--title" (List.mem_cons_of_mem drawing.title
        (List.mem_map_of_mem member)))
    obtain ⟨_, _, _, asWritten, _⟩ := asked before _ after split averages
    have operand : Int.repr (asSigned context.trendWindow) = Int.repr context.trendWindow := by
      rw [program] at asWritten
      exact (List.cons.inj (List.cons.inj asWritten).2).1
    exact (asSigned_eq_self_iff _).mp (Int.repr_injective operand)
  · intro fits
    rw [(asSigned_eq_self_iff _).mpr fits] at written
    exact written

end MainsCharts
