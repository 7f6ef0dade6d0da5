import MainsCharts.Proofs.Axis.Ends
import MainsCharts.Proofs.Build.Axis

/-!
# Where the limits of the axis come from

The bounds that a build plans its axis with are those of the renderer's report, when it is
asked for one, and unknown otherwise (`bounds_of_asked`, `bounds_of_unasked`).  At each end of
the axis the limit that the job asks for goes before the floor of the chart, and the floor before
these bounds (`build_limits`).
-/

namespace MainsCharts

set_option autoImplicit false

open Numeral

/-- The floor of a chart is finite. -/
theorem Chart.exists_of_floor {chart : Chart} {floor : Float}
    (isFloor : chart.floor = some floor) : ∃ number, exactValue? floor = some number := by
  cases chart with
  | normal | overlap => exact nomatch isFloor
  | diff | spread | overlapDiff =>
      obtain rfl := Option.some.inj isFloor
      exact ⟨0, rfl⟩

namespace ChartJob

open AxisPlan

variable {job : ChartJob} {chart : Chart} {renderer : Renderer} {canvas : Canvas}
  {history : List Invocation} {before : Transcript} {command : Command}
  {declarations : List String} {bounds : ValueBounds}

/-! ## Bounds -/

/-- Nothing is known of the bounds when they are not asked for. -/
theorem bounds_of_unasked
    (unasked : job.range.wantsBounds = false ∨ chart.targets.isEmpty = true) :
    job.bounds chart renderer history declarations = .ok .unknown := by
  unfold bounds
  rcases unasked with unwanted | nothing
  · rw [unwanted]
    rfl
  · rw [nothing, Bool.not_true, Bool.and_false]
    rfl

/-- Bounds that are asked for are read from the report. -/
theorem bounds_of_asked (wanted : job.range.wantsBounds = true)
    (targets : chart.targets.isEmpty = false) :
    job.bounds chart renderer history declarations =
      (renderer.answer history ⟨.probe, boundsArguments job.window.timeFlags declarations
        chart.targets⟩).outcome >>= boundsOfReport := by
  rw [bounds, wanted, targets, Bool.not_false, Bool.and_self, if_pos rfl]

/-- Whether bounds are asked for. -/
theorem asked_or_unasked (job : ChartJob) (chart : Chart) :
    (job.range.wantsBounds = true ∧ chart.targets.isEmpty = false) ∨
      (job.range.wantsBounds = false ∨ chart.targets.isEmpty = true) := by
  cases job.range.wantsBounds <;> cases chart.targets.isEmpty <;> simp

theorem isProper_of_bounds_eq_ok
    (known : job.bounds chart renderer history declarations = .ok bounds) : bounds.IsProper := by
  rcases asked_or_unasked job chart with ⟨wanted, targets⟩ | unasked
  · rw [bounds_of_asked wanted targets] at known
    obtain ⟨report, _, read⟩ := exists_of_bind_eq_ok known
    exact ValueBounds.isProper_of_ofReport read
  · rw [bounds_of_unasked unasked] at known
    obtain rfl := Except.ok.inj known
    exact ValueBounds.isProper_unknown

/-! ## Limits -/

/-- A command is built exactly when the declarations are there, the bounds are known as far as
they are asked for, and the axis is planned. -/
theorem build_eq_ok_iff :
    ((job.build chart renderer canvas).perform before).1 = .ok command ↔
      ∃ declarations bounds plan,
        job.prepared chart renderer before.calls = .ok declarations ∧
        job.bounds chart renderer (before.calls ++ job.periodCalls chart) declarations =
          .ok bounds ∧
        job.planAxis chart bounds = .ok plan ∧
        command = ⟨renderer.program, job.arguments canvas plan declarations⟩ := by
  refine ⟨of_build_eq_ok, ?_⟩
  rintro ⟨declarations, bounds, plan, ready, known, planned, rfl⟩
  rw [(runs_build job chart renderer canvas before.calls before rfl).1, ready]
  simp only [bind, Except.bind, finished, known, planned, Except.mapError]
  rfl

/-- **The limits of the axis.** -/
theorem build_limits (built : ((job.build chart renderer canvas).perform before).1 = .ok command) :
    ∃ declarations bounds plan,
      job.prepared chart renderer before.calls = .ok declarations ∧
      (job.range.wantsBounds = false ∨ chart.targets.isEmpty = true → bounds = .unknown) ∧
      (job.range.wantsBounds = true → chart.targets.isEmpty = false → ∃ report,
        (renderer.answer (before.calls ++ job.periodCalls chart)
          ⟨.probe, boundsArguments job.window.timeFlags declarations chart.targets⟩).outcome =
            .ok report ∧
          ValueBounds.ofReport (Text.Utf8.encode report.toList) = .ok bounds) ∧
      job.planAxis chart bounds = .ok plan ∧
      plan.lower? = lowerEnd? job.range.lower chart.floor bounds ∧
      plan.upper? = upperEnd? job.range.upper chart.floor bounds ∧
      command.arguments = canvas.arguments job.image ++ job.window.timeFlags ++
        flags plan.lower? plan.upper? ++ declarations := by
  obtain ⟨declarations, bounds, plan, ready, known, planned, rfl⟩ := of_build_eq_ok built
  have proper := isProper_of_bounds_eq_ok known
  obtain ⟨isPlan, _⟩ := planAxis_eq_ok_iff.mp planned
  refine ⟨declarations, bounds, plan, ready, ?_, ?_, planned, ?_, ?_, ?_⟩
  · intro unasked
    rw [bounds_of_unasked unasked] at known
    exact (Except.ok.inj known).symm
  · intro wanted targets
    rw [bounds_of_asked wanted targets] at known
    exact exists_of_bind_eq_ok known
  · rw [isPlan]
    exact (ends_eq proper job.range.lower job.range.upper).1
  · rw [isPlan]
    exact (ends_eq proper job.range.lower job.range.upper).2
  · have settled : plan ≠ .partly none none := isPlan ▸ ne_partly_none _ _
    rw [← arguments_eq_flags settled]
    rfl

/-! ## Around fifty -/

/-- A renderer that reports the same least and greatest value each time. -/
def aroundFifty : Renderer where
  program := "rrdtool"
  answer _ _ := ⟨.ok "MIN:49.5\nMAX:50.5\n", [], []⟩

/-- Two stretches of an hour, with the limits left to the values. -/
def twoHoursOpen : ChartJob :=
  { twoHours 0.0 0.0 with range := ⟨true, none, none⟩ }

theorem build_limits_twoHours :
    ∃ command, ((twoHoursOpen.build .overlap aroundFifty .standard).perform .empty).1 =
        .ok command ∧
      ["--lower-limit", "49.49", "--upper-limit", "50.51", "--rigid"] <:+: command.arguments := by
  have percentage : twoHoursOpen.checkPercentage = .ok () := if_pos tenth_inRange
  have span : overlaySpan 3600 2 = .ok 7200 := rfl
  have smoothed : twoHoursOpen.resolveTrend 3600 = .ok 60 := rfl
  have overlay : Chart.overlap.isOverlay = true := rfl
  obtain ⟨drawing, _, ready⟩ :=
    prepared_overlay overlay rfl percentage rfl span smoothed aroundFifty []
  have known : twoHoursOpen.bounds .overlap aroundFifty [] drawing.arguments =
      .ok ⟨some 49.5, some 50.5⟩ := bounds_of_asked rfl rfl
  have planned : twoHoursOpen.planAxis .overlap ⟨some 49.5, some 50.5⟩ =
      .ok (fromBounds ⟨some 49.5, some 50.5⟩ none) :=
    planAxis_eq_ok_iff.mpr ⟨rfl, emptyRange?_fromBounds (isProper_of_bounds_eq_ok known) nofun⟩
  have built : ((twoHoursOpen.build .overlap aroundFifty .standard).perform .empty).1 = .ok _ :=
    build_eq_ok_iff.mpr ⟨drawing.arguments, _, _, ready, known, planned, rfl⟩
  obtain ⟨_, bounds, plan, _, _, read, _, isLower, isUpper, arguments⟩ := build_limits built
  obtain ⟨report, answered, isReport⟩ := read rfl rfl
  obtain rfl := Except.ok.inj answered
  obtain rfl : ⟨some 49.5, some 50.5⟩ = bounds := Except.ok.inj isReport
  have given : flags plan.lower? plan.upper? =
      ["--lower-limit", "49.49", "--upper-limit", "50.51", "--rigid"] := by
    rw [isLower, isUpper]
    decide +kernel
  rw [← given]
  exact ⟨_, built, _, _, arguments.symm⟩

end ChartJob

end MainsCharts
