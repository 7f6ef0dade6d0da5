import MainsCharts.Proofs.Build.Checks
import MainsCharts.Proofs.Chart.Trends

/-!
# The trends of a built chart

The trend window of a build is not empty, and is the one that the job asks for, for the period
that is shown.  It is a word of sixty-four bits, but it is written and halved as a signed number.
So a trend averages over the window that was asked for, and is centred, exactly when the window
has no more than sixty-three bits (`trends_centred_iff`); a longer one is written as a negative
number (`trends_uncentred_ofAllTime`).
-/

namespace MainsCharts.ChartJob

set_option autoImplicit false

open Numeral

variable {job : ChartJob} {chart : Chart} {renderer : Renderer} {canvas : Canvas}
  {before : Transcript} {command : Command}

/-- The declarations of a job are drawn with the trend window that it asks for. -/
theorem exists_declare_of_prepared {history : List Invocation} {declarations : List String}
    (ready : job.prepared chart renderer history = .ok declarations) :
    ∃ period drawing, job.period chart renderer history = .ok period ∧
      0 < job.trend.resolve period ∧
      chart.declare (job.context period (job.trend.resolve period)) = .ok drawing ∧
      declarations = drawing.arguments := by
  obtain ⟨_, period, trendWindow, isPeriod, smoothed, declared⟩ := prepared_eq_ok_iff.mp ready
  obtain ⟨rfl, nonzero⟩ := (decides_resolveTrend.eq_ok_iff trendWindow).mp smoothed
  obtain ⟨drawing, drawn, _, same⟩ := of_declarations_eq_ok declared
  exact ⟨period, drawing, isPeriod, Nat.pos_of_ne_zero nonzero, drawn, same⟩

/-- **The trends of a built chart.**  Every average over a moving window has the same window and is
followed by a shift of the same series.  The window is the signed number of sixty-four bits that
the window of the job is read as, and the shift is half of its negation, rounded down, unless
the window is the one that cannot be negated.  These are the window that was asked for, and half
of it, exactly when a signed number can hold that window. -/
theorem trends_centred_iff
    (built : ((job.build chart renderer canvas).perform before).1 = .ok command) :
    ∃ (declarations : List String) (plan : AxisPlan) (period : Nat),
      job.prepared chart renderer before.calls = .ok declarations ∧
      command.arguments = canvas.arguments job.image ++ job.window.timeFlags ++ plan.arguments ++
        declarations ∧
      job.period chart renderer before.calls = .ok period ∧
      0 < job.trend.resolve period ∧
      (job.trend.resolve period ≠ greatestSigned + 1 →
        Centred (asSigned (job.trend.resolve period))
          (Int.fdiv (-asSigned (job.trend.resolve period)) 2) declarations) ∧
      (Centred (job.trend.resolve period) (Int.fdiv (-job.trend.resolve period) 2) declarations ↔
        job.trend.resolve period ≤ greatestSigned) := by
  obtain ⟨declarations, _, plan, ready, _, _, rfl⟩ := of_build_eq_ok built
  obtain ⟨period, drawing, isPeriod, positive, drawn, rfl⟩ := exists_declare_of_prepared ready
  have window : (job.context period (job.trend.resolve period)).trendWindow =
      job.trend.resolve period := rfl
  have written := Chart.centred_arguments drawn
  have asked := Chart.centred_arguments_iff drawn
  rw [window] at written asked
  exact ⟨_, plan, period, ready, rfl, isPeriod, positive, fun _ => written, asked⟩

/-- A trend over one minute. -/
theorem trends_centred_twoHours :
    ∃ command declarations,
      (((twoHours 0.0 1.0).build .overlap muteRenderer .standard).perform .empty).1 =
        .ok command ∧
      declarations <:+ command.arguments ∧ Centred 60 (-30) declarations := by
  have order : ¬ (1.0 : Float) ≤ 0.0 := by decide
  obtain ⟨_, _, built⟩ := build_twoHours order muteRenderer .standard .empty
  obtain ⟨declarations, plan, period, _, arguments, _, _, _, centred⟩ := trends_centred_iff built
  have window : (twoHours 0.0 1.0).trend.resolve period = 60 := rfl
  rw [window] at centred
  exact ⟨_, declarations, built, ⟨_, arguments.symm⟩, centred.mpr (by decide)⟩

/-! ## All time -/

/-- Two stretches of an hour, with a trend over the longest time there is. -/
def ofAllTime : ChartJob :=
  { twoHours 0.0 1.0 with trend := .seconds greatestWord }

/-- The longest window is written as minus one, and the trend over it is not moved. -/
theorem trends_uncentred_ofAllTime :
    ∃ command declarations,
      ((ofAllTime.build .overlap muteRenderer .standard).perform .empty).1 = .ok command ∧
      ofAllTime.prepared .overlap muteRenderer [] = .ok declarations ∧
      declarations <:+ command.arguments ∧
      ofAllTime.period .overlap muteRenderer [] = .ok 3600 ∧
      ofAllTime.trend.resolve 3600 = 18446744073709551615 ∧
      Centred (-1) 0 declarations ∧
      ¬ Centred 18446744073709551615 (-9223372036854775808) declarations := by
  have percentage : ofAllTime.checkPercentage = .ok () := if_pos tenth_inRange
  have ordered : ofAllTime.range.checkOrder = .ok () := rfl
  have planned : ofAllTime.planAxis .overlap .unknown = .ok (.rigid 0.0 1.0) :=
    planAxis_eq_ok_iff.mpr ⟨rfl, rfl⟩
  have span : overlaySpan 3600 2 = .ok 7200 := rfl
  have smoothed : ofAllTime.resolveTrend 3600 = .ok 18446744073709551615 := rfl
  have overlay : Chart.overlap.isOverlay = true := rfl
  obtain ⟨drawing, drawn, ready⟩ :=
    prepared_overlay overlay rfl percentage ordered span smoothed muteRenderer []
  have built : ((ofAllTime.build .overlap muteRenderer .standard).perform .empty).1 = .ok _ :=
    build_eq_ok_iff.mpr ⟨drawing.arguments, _, _, ready, bounds_of_unasked (.inl rfl), planned, rfl⟩
  have window : (ofAllTime.context 3600 18446744073709551615).trendWindow =
      18446744073709551615 := rfl
  have written := Chart.centred_arguments drawn
  have asked := Chart.centred_arguments_iff drawn
  rw [window] at written asked
  have large : ¬ 18446744073709551615 ≤ greatestSigned := by decide
  exact ⟨_, drawing.arguments, built, ready, ⟨_, rfl⟩, rfl, rfl, written, mt asked.mp large⟩

end MainsCharts.ChartJob
