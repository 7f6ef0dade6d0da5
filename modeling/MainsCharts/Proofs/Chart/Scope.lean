import MainsCharts.Proofs.Chart.Overlay
import MainsCharts.Proofs.Element.Scope

/-!
# The scope of names in the charts

Every chart is well scoped, and so are the arguments that report its bounds behind it
(`declare_wellScoped`).  The three charts of a floating window are fixed lists but for
the kind of their boundaries.  In an overlay the series of the stretches depend on
the depth; each list of elements is shown to be scoped from what it needs, and what it
needs is declared by the lists before it.
-/

namespace MainsCharts

set_option autoImplicit false

open Expression

section Charts

attribute [local simp] Element.isWellNamed Element.declaration? Element.references isScoped
  Reference.isMet Role.admits names namesOfAll tokens tokens_unary tokens_binary
  Drawing.series Drawing.number Drawing.percentile Drawing.clipped Drawing.reduction
  Drawing.comparison Drawing.absence Drawing.boundaries Drawing.measurementsHeading
  Drawing.frequencyLimits Element.trend Element.heading Element.noiseRemark
  Chart.targets ProbeTargets.elements ProbeTargets.printed

/-! ## Floating windows -/

theorem isScoped_frequency (context : ChartContext) :
    isScoped [] ((Frequency.declare context).elements ++ Chart.normal.targets.elements) = true := by
  simp +decide [Frequency.declare, Frequency.clipping, Frequency.trends, Frequency.markers,
    Frequency.measurements]

theorem isScoped_rate (context : ChartContext) :
    isScoped [] ((Rate.declare context).elements ++ Chart.diff.targets.elements) = true := by
  simp +decide [Rate.declare, Rate.clipping, Rate.trends, Rate.markers, Rate.measurements]

theorem isScoped_spread (context : ChartContext) :
    isScoped [] ((Spread.declare context).elements ++ Chart.spread.targets.elements) = true := by
  simp +decide [Spread.declare, Spread.clipping, Spread.markers, Spread.measurements]

/-! ## Overlays -/

namespace Overlay

open Drawing

/-- The name of a series of one stretch is a name. -/
theorem isName_stretchName {stage kind : String}
    (plainStage : stage.toList.all isNameCharacter = true)
    (plainKind : kind.toList.all isNameCharacter = true) (stretch : Nat) :
    isName (stretchName stage stretch kind) = true := by
  have digits : (Nat.repr stretch).toList.all isNameCharacter = true := by
    rw [List.all_eq_true]
    intro digit member
    rw [isNameCharacter, Char.isAlphanum, Numeral.isDigit_of_mem_repr member, Bool.or_true,
      Bool.true_or]
  have underscore : '_' ∈ (stretchName stage stretch kind).toList := by simp [stretchName]
  rw [isName, Bool.and_eq_true]
  refine ⟨?_, List.any_eq_true.mpr ⟨'_', underscore, rfl⟩⟩
  simp only [stretchName, String.toList_append, List.all_append, plainStage, plainKind, digits]
  decide

theorem isName_rawName {kind : String} (listed : kind ∈ kinds.map Prod.fst) (stretch : Nat) :
    isName (rawName stretch kind) = true := by
  refine isName_stretchName (by decide) ?_ stretch
  revert kind
  decide

theorem isName_clippedName (stretch : Nat) : isName (clippedName stretch) = true :=
  isName_stretchName (by decide) (by decide) stretch

theorem isName_trendName (stretch : Nat) : isName (trendName stretch) = true :=
  isName_stretchName (by decide) (by decide) stretch

variable {declared : List (String × SeriesKind)} {variant : Variant} {context : ChartContext}
  {depth : Nat}

/-- A fold over all stretches, where their series are declared. -/
theorem isScoped_fold {name : String} {value : Expression} {operand : Nat → String}
    {kind : SeriesKind} {rest : List Element} (positive : 0 < depth) (named : isName name = true)
    (names : value.names = (List.range depth).map operand)
    (operandNamed : ∀ stretch, isName (operand stretch) = true)
    (known : ∀ stretch < depth, (operand stretch, kind) ∈ declared)
    (scopedRest : isScoped (declared ++ [(name, .derived)]) rest = true) :
    isScoped declared (.derived name value :: rest) = true := by
  have wellNamed : (Element.derived name value).isWellNamed = true := by
    simp only [Element.isWellNamed, named, names, Bool.true_and, Bool.and_eq_true, List.all_map,
      List.all_eq_true, Bool.not_eq_true', List.isEmpty_eq_false_iff, ne_eq, List.map_eq_nil_iff,
      List.range_eq_nil]
    exact ⟨fun stretch _ => operandNamed stretch, by omega⟩
  have met : ∀ reference ∈ (Element.derived name value).references,
      reference.isMet declared = true := by
    intro reference member
    simp only [Element.references, names, List.map_map, List.mem_map, List.mem_range] at member
    obtain ⟨stretch, bounded, rfl⟩ := member
    exact Reference.isMet_of_mem (known stretch bounded) rfl
  rw [isScoped, wellNamed, List.all_eq_true.mpr met, Bool.true_and, Bool.true_and]
  exact scopedRest

/-- The scalars that the values of an overlay are clipped at. -/
def ends (variant : Variant) : List (String × SeriesKind) :=
  (if variant.clipsBelow then [("g_min", .scalar)] else []) ++ [("g_max", .scalar)]

/-- What the stored series of all stretches declare. -/
theorem mem_declarations_slices {path source stop : String} {total stretch : Nat} {kind : String}
    (bounded : stretch < depth) (listed : kind ∈ kinds.map Prod.fst) :
    (rawName stretch kind, SeriesKind.stored) ∈
      declarations (slices path source stop total depth) := by
  rw [slices, declarations_flatMap, List.mem_flatMap]
  refine ⟨stretch, List.mem_range.mpr bounded, ?_⟩
  obtain ⟨⟨_, consolidation⟩, member, rfl⟩ := List.mem_map.mp listed
  rw [slice, declarations_append, List.mem_append]
  refine .inl (List.mem_filterMap.mpr ⟨_, List.mem_map.mpr ⟨_, member, rfl⟩, rfl⟩)

theorem isScoped_slices (path source stop : String) (total : Nat) :
    isScoped [] (slices path source stop total depth) = true := by
  refine isScoped_flatMap ?_
  intro stretch _
  simp [slice, kinds, isScoped, Element.isWellNamed, Element.references, Element.declaration?,
    Reference.isMet, Role.admits, isName_rawName]

theorem declarations_extremesOf (folds : Folds depth) :
    declarations (extremesOf context variant folds) =
      [("r_min", .derived), ("r_max", .derived)] ++ ends variant := by
  cases clips : variant.clipsBelow <;> simp [extremesOf, ends, whenever, clips] <;> rfl

theorem isScoped_extremesOf (folds : Folds depth) (positive : 0 < depth)
    (least : ∀ stretch < depth, (rawName stretch "min", .stored) ∈ declared)
    (greatest : ∀ stretch < depth, (rawName stretch "max", .stored) ∈ declared) :
    isScoped declared (extremesOf context variant folds) = true := by
  have leastNames := names_chain folds.least_eq
  have greatestNames := names_chain folds.greatest_eq
  rw [each, namesOfAll_map fun _ => rfl] at leastNames greatestNames
  have clipped : isScoped [("r_min", .derived), ("r_max", .derived)]
      (whenever variant.clipsBelow [percentile "g_min" "r_min" context.lowerPercentile] ++
        [percentile "g_max" "r_max" context.upperPercentile]) = true := by
    cases variant.clipsBelow <;> simp +decide [whenever]
  rw [extremesOf, List.append_assoc]
  refine isScoped_fold positive (by decide) leastNames (isName_rawName (by decide)) least ?_
  refine isScoped_fold positive (by decide) greatestNames (isName_rawName (by decide))
    (fun stretch bounded => List.mem_append_left _ (greatest stretch bounded)) ?_
  refine isScoped_mono ?_ clipped
  simp

theorem isScoped_stretchTrend {trendWindow stretch : Nat}
    (raw : (rawName stretch "avg", .stored) ∈ declared) (clips : ends variant ⊆ declared) :
    isScoped declared (stretchTrend variant trendWindow stretch) = true := by
  have needed : isScoped ((rawName stretch "avg", .stored) :: ends variant)
      (stretchTrend variant trendWindow stretch) = true := by
    cases below : variant.clipsBelow <;>
      simp +decide [stretchTrend, lowerEnd, ends, below, isName_rawName, isName_clippedName,
        isName_trendName]
  exact isScoped_mono (List.cons_subset.mpr ⟨raw, clips⟩) needed

theorem isScoped_averagesOf (folds : Folds depth) (positive : 0 < depth)
    (raw : ∀ stretch < depth, (rawName stretch "avg", .stored) ∈ declared)
    (inner : ∀ stretch < depth, (clippedName stretch, .derived) ∈ declared)
    (smooth : ∀ stretch < depth, (trendName stretch, .derived) ∈ declared) :
    isScoped declared (averagesOf folds) = true := by
  have rawNames := names_average folds.raw_eq
  have innerNames := names_average folds.inner_eq
  have smoothNames := names_average folds.smooth_eq
  rw [each, namesOfAll_map fun _ => rfl] at rawNames innerNames smoothNames
  have reduced :
      isScoped [("f_avg", .derived)] [reduction "g_avg" .seriesAverage "f_avg"] = true := by
    simp +decide
  rw [averagesOf]
  refine isScoped_fold positive (by decide) rawNames (isName_rawName (by decide)) raw ?_
  refine isScoped_fold positive (by decide) innerNames isName_clippedName
    (fun stretch bounded => List.mem_append_left _ (inner stretch bounded)) ?_
  refine isScoped_fold positive (by decide) smoothNames isName_trendName
    (fun stretch bounded =>
      List.mem_append_left _ (List.mem_append_left _ (smooth stretch bounded))) ?_
  refine isScoped_mono ?_ reduced
  simp

/-- The marked series that are declared in an overlay. -/
def marks (variant : Variant) : List (String × SeriesKind) :=
  (if variant.clipsBelow then [("e_min", .derived)] else []) ++
    [("e_max", .derived), ("e_miss_all", .derived), ("e_miss_some", .derived), ("ztick", .derived)]

theorem declarations_markedOf (folds : Folds depth) (width : Nat) :
    declarations (markedOf variant folds width) = marks variant := by
  cases clips : variant.clipsBelow <;> simp [markedOf, marks, whenever, clips] <;> rfl

theorem isScoped_markedOf (folds : Folds depth) (positive : 0 < depth) (width : Nat)
    (raw : ∀ stretch < depth, (rawName stretch "avg", .stored) ∈ declared)
    (extremes : [("r_min", .derived), ("r_max", .derived), ("r_avg", .derived)] ⊆ declared)
    (clips : ends variant ⊆ declared) :
    isScoped declared (markedOf variant folds width) = true := by
  have missingNames := names_chain folds.missing_eq
  rw [absences, namesOfAll_map fun _ => rfl] at missingNames
  have compared : isScoped
      ([("r_min", .derived), ("r_max", .derived), ("r_avg", .derived)] ++ ends variant)
      (whenever variant.clipsBelow [comparison "e_min" .lessThan "r_min" "g_min"] ++
        [comparison "e_max" .greaterThan "r_max" "g_max", absence "e_miss_all" "r_avg"]) =
      true := by
    cases below : variant.clipsBelow <;> simp +decide [whenever, ends, below]
  have ticked :
      isScoped [(rawName 0 "avg", .stored)] [boundaries width (rawName 0 "avg")] = true := by
    simp +decide [isName_rawName]
  have split : markedOf variant folds width =
      (whenever variant.clipsBelow [comparison "e_min" .lessThan "r_min" "g_min"] ++
        [comparison "e_max" .greaterThan "r_max" "g_max", absence "e_miss_all" "r_avg"]) ++
      [.derived "e_miss_some" folds.missing, boundaries width (rawName 0 "avg")] := by
    simp only [markedOf, List.append_assoc, List.cons_append, List.nil_append]
  rw [split, isScoped_append, isScoped_mono (List.append_subset.mpr ⟨extremes, clips⟩) compared,
    Bool.true_and]
  refine isScoped_fold positive (by decide) missingNames (isName_rawName (by decide))
    (fun stretch bounded => List.mem_append_left _ (raw stretch bounded)) ?_
  refine isScoped_mono ?_ ticked
  exact List.cons_subset.mpr ⟨List.mem_append_left _ (List.mem_append_left _ (raw 0 positive)),
    List.nil_subset _⟩

theorem isScoped_stretchLines {first second : Color} {line : Nat → Color → Element}
    (usable : ∀ stretch < depth, ∀ color, isScoped declared [line stretch color] = true) :
    isScoped declared (stretchLines (Color.gradient first second depth) line) = true := by
  refine isScoped_of_forall ?_
  intro element member
  obtain ⟨stretch, bounded, color, rfl⟩ := of_mem_stretchLines member
  have single := usable stretch bounded color
  rw [isScoped, isScoped, Bool.and_true, Bool.and_eq_true, List.all_eq_true] at single
  exact single

theorem isScoped_drawnOf (raw : ∀ stretch < depth, (rawName stretch "avg", .stored) ∈ declared)
    (smooth : ∀ stretch < depth, (trendName stretch, .derived) ∈ declared)
    (marked : marks variant ⊆ declared) (clips : ends variant ⊆ declared)
    (averaged : [("g_avg", .scalar), ("t_avg", .derived)] ⊆ declared) :
    isScoped declared (drawnOf context variant depth) = true := by
  have ticks : isScoped (marks variant) (markers context.palette variant) = true := by
    cases below : variant.clipsBelow <;> simp +decide [markers, marks, below]
  have lines : isScoped ([("g_avg", .scalar), ("t_avg", .derived)] ++ ends variant)
      (measurements context.palette variant) = true := by
    cases below : variant.clipsBelow <;>
      simp +decide [measurements, whenever, ends, below]
  have last : isScoped [("g_avg", .scalar), ("t_avg", .derived)] (closing context) = true := by
    simp +decide [closing]
  have rawLine : ∀ stretch < depth, ∀ color, isScoped declared
      [.line 1 (rawName stretch "avg") color none ["skipscale"]] = true := by
    intro stretch bounded color
    refine isScoped_mono (List.cons_subset.mpr ⟨raw stretch bounded, List.nil_subset _⟩) ?_
    simp [isName_rawName, kinds]
  have trendLine : ∀ stretch < depth, ∀ color, isScoped declared
      [.line 1 (trendName stretch) color (some ("-" ++ Nat.repr stretch ++ ",")) []] = true := by
    intro stretch bounded color
    refine isScoped_mono (List.cons_subset.mpr ⟨smooth stretch bounded, List.nil_subset _⟩) ?_
    simp [isName_trendName]
  rw [drawnOf]
  refine isScoped_append_of ?_ (isScoped_mono averaged last)
  refine isScoped_append_of ?_ (isScoped_stretchLines trendLine)
  refine isScoped_append_of ?_ rfl
  refine isScoped_append_of ?_ (isScoped_mono (List.append_subset.mpr ⟨averaged, clips⟩) lines)
  refine isScoped_append_of ?_ (isScoped_stretchLines rawLine)
  exact isScoped_append_of (isScoped_mono marked ticks) rfl

theorem mem_declarations_stretchTrend (variant : Variant) (trendWindow : Nat) {stretch : Nat}
    (bounded : stretch < depth) :
    (clippedName stretch, SeriesKind.derived) ∈
        declarations ((List.range depth).flatMap (stretchTrend variant trendWindow)) ∧
      (trendName stretch, SeriesKind.derived) ∈
        declarations ((List.range depth).flatMap (stretchTrend variant trendWindow)) := by
  have here : declarations (stretchTrend variant trendWindow stretch) =
      [(clippedName stretch, .derived), (trendName stretch, .derived)] := rfl
  rw [declarations_flatMap, List.mem_flatMap, List.mem_flatMap]
  constructor
  · exact ⟨stretch, List.mem_range.mpr bounded, by rw [here]; exact List.mem_cons_self⟩
  · exact ⟨stretch, List.mem_range.mpr bounded, by
      rw [here]; exact List.mem_cons_of_mem _ List.mem_cons_self⟩

/-- An overlay and the report of its bounds are scoped. -/
theorem isScoped_drawingOf (folds : Folds depth) (positive : 0 < depth) (stop : String)
    (width : Nat) {targets : ProbeTargets}
    (reported : isScoped (ends variant) targets.elements = true) :
    isScoped [] ((drawingOf context variant folds stop width).elements ++ targets.elements) =
      true := by
  have averaged : declarations (averagesOf folds) =
      [("r_avg", .derived), ("f_avg", .derived), ("t_avg", .derived), ("g_avg", .scalar)] := rfl
  have stored {kind : String} (listed : kind ∈ kinds.map Prod.fst) : ∀ stretch < depth,
      (rawName stretch kind, SeriesKind.stored) ∈
        declarations (slices context.path variant.source stop (width * depth) depth) := by
    intro stretch bounded
    exact mem_declarations_slices bounded listed
  have least := stored (by decide : "min" ∈ kinds.map Prod.fst)
  have greatest := stored (by decide : "max" ∈ kinds.map Prod.fst)
  have raw := stored (by decide : "avg" ∈ kinds.map Prod.fst)
  have smooth := fun stretch (bounded : stretch < depth) =>
    mem_declarations_stretchTrend variant context.trendWindow bounded
  simp only [drawingOf, seriesOf, isScoped_append, declarations_append, List.nil_append,
    Bool.and_eq_true, averaged, declarations_extremesOf, declarations_markedOf]
  refine ⟨⟨⟨⟨⟨⟨isScoped_slices .., ?extremes⟩, ?trends⟩, ?averages⟩, ?marked⟩, ?drawn⟩, ?targets⟩
  case extremes => exact isScoped_extremesOf folds positive least greatest
  case trends =>
    refine isScoped_flatMap ?_
    intro stretch member
    refine isScoped_stretchTrend ?_ ?_
    · exact List.mem_append_left _ (raw stretch (List.mem_range.mp member))
    · intro scalar known
      simp [known]
  case averages =>
    refine isScoped_averagesOf folds positive ?_ ?_ ?_
    · intro stretch bounded
      simp [raw stretch bounded]
    · intro stretch bounded
      simp [(smooth stretch bounded).1]
    · intro stretch bounded
      simp [(smooth stretch bounded).2]
  case marked =>
    refine isScoped_markedOf folds positive width ?_ ?_ ?_
    · intro stretch bounded
      simp [raw stretch bounded]
    · simp
    · intro scalar known
      simp [known]
  case drawn =>
    refine isScoped_drawnOf ?_ ?_ ?_ ?_ ?_
    · intro stretch bounded
      simp [raw stretch bounded]
    · intro stretch bounded
      simp [(smooth stretch bounded).2]
    · intro mark known
      simp [known]
    · intro scalar known
      simp [known]
    · simp
  case targets =>
    refine isScoped_mono ?_ reported
    intro scalar known
    simp [known]

end Overlay

end Charts

/-! ## All charts -/

namespace Chart

variable {chart : Chart} {context : ChartContext} {drawing : Drawing}

/-- Nobody takes a title for an element. -/
theorem head_title (declared : chart.declare context = .ok drawing) :
    ∃ first rest, drawing.title.toList = first :: rest ∧ first ∉ openingLetters := by
  have titled {subject span unit : String} {first : Char} {rest : List Char}
      (written : subject.toList = first :: rest) :
      (Drawing.titleOf subject span unit).toList =
        first :: (rest ++ (", " ++ (span ++ (", " ++ unit))).toList) := by
    simp only [Drawing.titleOf, String.append_assoc, String.toList_append, written,
      List.cons_append]
  cases chart with
  | normal | diff | spread =>
      obtain rfl := Except.ok.inj declared
      exact ⟨_, _, titled rfl, by decide⟩
  | overlap | overlapDiff =>
      obtain ⟨stop, width, depth, total, folds, _, _, rfl⟩ := Overlay.of_declare_eq_ok declared
      exact ⟨_, _, titled rfl, by decide⟩

/-- The elements of a chart and the report of its bounds are scoped. -/
theorem isScoped_declare (declared : chart.declare context = .ok drawing) :
    isScoped [] (drawing.elements ++ chart.targets.elements) = true := by
  cases chart with
  | normal =>
      obtain rfl := Except.ok.inj declared
      exact isScoped_frequency context
  | diff =>
      obtain rfl := Except.ok.inj declared
      exact isScoped_rate context
  | spread =>
      obtain rfl := Except.ok.inj declared
      exact isScoped_spread context
  | overlap | overlapDiff =>
      obtain ⟨stop, width, depth, total, folds, _, span, rfl⟩ := Overlay.of_declare_eq_ok declared
      obtain ⟨_, positive, _⟩ := overlaySpan_eq_ok_iff.mp span
      exact Overlay.isScoped_drawingOf folds positive stop width (by decide)

/-- The arguments of a declared chart, with the report of its bounds behind them. -/
theorem wellScoped_of_declare (declared : chart.declare context = .ok drawing) :
    WellScoped (drawing.arguments ++ chart.targets.arguments) := by
  obtain ⟨first, rest, written, foreign⟩ := head_title declared
  have elements := wellScoped_of_isScoped (isScoped_declare declared)
  rw [List.map_append] at elements
  have untitled : references "--title" = [] :=
    (unread_of_not_mem_openingLetters rfl (by decide)).2
  exact (elements.cons (unread_of_not_mem_openingLetters written foreign).2).cons untitled

/-- **Every chart is well scoped.**  In each context that suits it a chart is declared, and
in its arguments, with the report of its bounds behind them, each series that is used has
been declared before, as something that it can be used as. -/
theorem declare_wellScoped (suits : chart.Suits context) :
    ∃ drawing, chart.declare context = .ok drawing ∧
      WellScoped (drawing.arguments ++ chart.targets.arguments) := by
  obtain ⟨drawing, declared⟩ := exists_declare_iff.mpr suits
  exact ⟨drawing, declared, wellScoped_of_declare declared⟩

/-- Two stretches of an hour. -/
def twoHours : ChartContext where
  path := "/var/lib/mains.rrd"
  period := 3600
  trendWindow := 60
  errorPercentage := 0.1
  window := .overlay "now" 3600 2
  palette := .classic

theorem declare_wellScoped_twoHours :
    ∃ drawing, overlap.declare twoHours = .ok drawing ∧
      WellScoped (drawing.arguments ++ overlap.targets.arguments) :=
  declare_wellScoped fun _ => ⟨"now", 3600, 2, 7200, rfl, rfl⟩

end Chart

end MainsCharts
