import MainsCharts.Proofs.Build.Course
import MainsCharts.Proofs.Chart.Names

/-!
# Building an overlay

The period of an overlay is the width of its stretches, and with both limits given nothing
has to be learned about the values; so such a build needs no answer of the renderer and
succeeds when its checks pass (`build_overlay`).
-/

namespace MainsCharts.ChartJob

set_option autoImplicit false

variable {job : ChartJob} {chart : Chart} {stop : String} {width depth : Nat}

theorem checkWindow_eq_ok_iff :
    job.checkWindow chart = .ok () ↔ chart.isOverlay = job.window.isOverlay := by
  rw [checkWindow]
  split
  · exact iff_of_true rfl ‹_›
  · exact iff_of_false nofun ‹_›

/-- Once the period of an overlay is resolved, its declarations are there. -/
theorem prepared_overlay (overlay : chart.isOverlay = true)
    (window : job.window = .overlay stop width depth)
    (percentage : job.checkPercentage = .ok ()) (order : job.range.checkOrder = .ok ())
    {total : Nat} (span : overlaySpan width depth = .ok total)
    {trendWindow : Nat} (smoothed : job.resolveTrend width = .ok trendWindow)
    (renderer : Renderer) (history : List Invocation) :
    ∃ drawing, chart.declare (job.context width trendWindow) = .ok drawing ∧
      job.prepared chart renderer history = .ok drawing.arguments := by
  have suits : chart.Suits (job.context width trendWindow) := fun _ =>
    ⟨stop, width, depth, total, window, span⟩
  obtain ⟨drawing, drawn⟩ := Chart.exists_declare_iff.mpr suits
  have resolved : job.period chart renderer history = .ok width := by
    rw [period, window]
    simp only [span]
    rfl
  have declared : job.declarations chart width trendWindow = .ok drawing.arguments := by
    rw [declarations, drawn]
    simp only [bind, Except.bind, Chart.checkNames_declare drawn]
    rfl
  have fitting : chart.isOverlay = job.window.isOverlay := by
    rw [overlay, window]
    rfl
  have checked := checkRequest_eq_ok_iff.mpr
    ⟨percentage, order, checkWindow_eq_ok_iff.mpr fitting⟩
  exact ⟨drawing, drawn, prepared_eq_ok_iff.mpr ⟨checked, width, trendWindow, resolved, smoothed,
    declared⟩⟩

/-- **An overlay with both limits given** is built when its checks pass, whatever the renderer
is. -/
theorem build_overlay (overlay : chart.isOverlay = true)
    (window : job.window = .overlay stop width depth)
    (percentage : job.checkPercentage = .ok ()) (order : job.range.checkOrder = .ok ())
    {total : Nat} (span : overlaySpan width depth = .ok total)
    {trendWindow : Nat} (smoothed : job.resolveTrend width = .ok trendWindow)
    (complete : job.range.isComplete = true) {plan : AxisPlan}
    (planned : job.planAxis chart .unknown = .ok plan)
    (renderer : Renderer) (canvas : Canvas) (before : Transcript) :
    ∃ drawing, chart.declare (job.context width trendWindow) = .ok drawing ∧
      ((job.build chart renderer canvas).perform before).1 =
        .ok ⟨renderer.program, job.arguments canvas plan drawing.arguments⟩ := by
  obtain ⟨drawing, drawn, ready⟩ :=
    prepared_overlay overlay window percentage order span smoothed renderer before.calls
  refine ⟨drawing, drawn, ?_⟩
  have unasked (history : List Invocation) (declarations : List String) :
      job.bounds chart renderer history declarations = .ok .unknown := by
    rw [bounds, RangeRequest.wantsBounds, complete, Bool.not_true, Bool.and_false, Bool.false_and,
      if_neg Bool.false_ne_true]
    rfl
  rw [(runs_build job chart renderer canvas before.calls before rfl).1, ready]
  simp only [bind, Except.bind, finished, unasked, planned, Except.mapError]
  rfl

/-! ## Two hours -/

/-- A renderer that answers with an empty report. -/
def muteRenderer : Renderer where
  program := "rrdtool"
  answer _ _ := ⟨.ok "", [], []⟩

/-- Two stretches of an hour, with both limits given. -/
def twoHours (lower upper : Float) : ChartJob where
  path := "/var/lib/mains.rrd"
  image := "/tmp/mains.png"
  window := .overlay "now" 3600 2
  trend := .seconds 60
  errorPercentage := 0.1
  range := ⟨true, some lower, some upper⟩

/-- A tenth of a percent leaves enough samples. -/
theorem tenth_inRange : (0.0 : Float) ≤ 0.1 ∧ (0.1 : Float) < 50.0 := by decide

theorem build_twoHours {lower upper : Float} (order : ¬ upper ≤ lower) (renderer : Renderer)
    (canvas : Canvas) (before : Transcript) :
    ∃ drawing, Chart.overlap.declare ((twoHours lower upper).context 3600 60) = .ok drawing ∧
      (((twoHours lower upper).build .overlap renderer canvas).perform before).1 =
        .ok ⟨renderer.program,
          (twoHours lower upper).arguments canvas (.rigid lower upper) drawing.arguments⟩ := by
  have ordered : (twoHours lower upper).range.checkOrder = .ok () := if_neg order
  have planned : (twoHours lower upper).planAxis .overlap .unknown = .ok (.rigid lower upper) := by
    simp only [planAxis, twoHours, AxisPlan.withExplicit, AxisPlan.emptyRange?, Option.isNone_some,
      Bool.and_self, Bool.false_eq_true, if_false, Option.some_or, if_neg order]
  have percentage : (twoHours lower upper).checkPercentage = .ok () := if_pos tenth_inRange
  have span : overlaySpan 3600 2 = .ok 7200 := rfl
  exact build_overlay rfl rfl percentage ordered span rfl rfl planned renderer canvas before

end MainsCharts.ChartJob
