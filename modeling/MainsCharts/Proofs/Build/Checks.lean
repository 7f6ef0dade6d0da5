import MainsCharts.Proofs.Build.Limits
import MainsCharts.Proofs.Report.Reading

/-!
# The checks of a build

Each check of a build is described by the values that it lets through and by the errors that
it fails with (`Decides`).  A request is looked at for its percentage, the order of its limits
and the kind of its window, in this order (`decides_checkRequest`); a period is missing when the
renderer does not answer or its report lacks a field or has them in the wrong order, or when
an overlay cannot be spanned (`decides_period`); and bounds that are asked for are missing when
the renderer does not answer or reports them in the wrong order (`decides_bounds`).
-/

namespace MainsCharts

set_option autoImplicit false

open Numeral Text

/-! ## Checks -/

/-- Which values a computation yields and which errors it fails with. -/
structure Decides {ε α : Type} (verdict : Except ε α) (passes : α → Prop) (fails : ε → Prop) :
    Prop where
  eq_ok_iff : ∀ value, verdict = .ok value ↔ passes value
  eq_error_iff : ∀ error, verdict = .error error ↔ fails error

namespace Decides

variable {ε α : Type} {verdict : Except ε α} {passes : α → Prop} {fails : ε → Prop}

/-- A computation does one or the other, so it is enough to know that either is the case. -/
theorem of_total (yields : ∀ value, passes value → verdict = .ok value)
    (refuses : ∀ error, fails error → verdict = .error error)
    (total : (∃ value, passes value) ∨ ∃ error, fails error) : Decides verdict passes fails := by
  rcases total with ⟨value, passed⟩ | ⟨error, failed⟩
  · have same := yields value passed
    constructor
    · intro other
      refine ⟨fun isOther => ?_, yields other⟩
      obtain rfl := Except.ok.inj (same.symm.trans isOther)
      exact passed
    · intro error
      exact ⟨fun isError => (nomatch same.symm.trans isError), refuses error⟩
  · have same := refuses error failed
    constructor
    · intro value
      exact ⟨fun isValue => (nomatch same.symm.trans isValue), yields value⟩
    · intro other
      refine ⟨fun isOther => ?_, refuses other⟩
      obtain rfl := Except.error.inj (same.symm.trans isOther)
      exact failed

theorem total (decides : Decides verdict passes fails) :
    (∃ value, passes value) ∨ ∃ error, fails error := by
  cases isVerdict : verdict with
  | ok value => exact .inl ⟨value, (decides.eq_ok_iff value).mp isVerdict⟩
  | error error => exact .inr ⟨error, (decides.eq_error_iff error).mp isVerdict⟩

end Decides

/-! ## Reports -/

/-- The report of a renderer is always read, since what it printed is a text. -/
theorem exists_reportLines (report : String) :
    ∃ lines, reportLines (Utf8.encode report.toList) = .ok lines := by
  have read : Text.lines (Utf8.encode report.toList) =
      ((cutLines report.toList).map withoutTerminator).map some := by
    rw [lines_encode, List.map_map]
    rfl
  exact ⟨_, by rw [reportLines, read, linesBeforeBlank_map_some]; rfl⟩

namespace ChartJob

open AxisPlan

variable (job : ChartJob) (chart : Chart) (renderer : Renderer)
  (history : List Invocation)

/-! ## Requests -/

/-- What is looked for in a request. -/
structure Admitted : Prop where
  percentage : 0.0 ≤ job.errorPercentage ∧ job.errorPercentage < 50.0
  limits : ∀ lower upper, job.range.lower = some lower → job.range.upper = some upper →
    ¬ upper ≤ lower
  window : chart.isOverlay = job.window.isOverlay

/-- What a request is refused for before anything is asked: the percentage, then the order of the
limits, then the kind of the window. -/
inductive Unadmitted : Misuse → Prop
  | percentage (outside : ¬ (0.0 ≤ job.errorPercentage ∧ job.errorPercentage < 50.0)) :
      Unadmitted (.errorPercentage job.errorPercentage)
  | limits {lower upper : Float}
      (percentage : 0.0 ≤ job.errorPercentage ∧ job.errorPercentage < 50.0)
      (isLower : job.range.lower = some lower) (isUpper : job.range.upper = some upper)
      (crossed : upper ≤ lower) : Unadmitted (.limitsCrossed lower upper)
  | window (percentage : 0.0 ≤ job.errorPercentage ∧ job.errorPercentage < 50.0)
      (limits : ∀ lower upper, job.range.lower = some lower → job.range.upper = some upper →
        ¬ upper ≤ lower)
      (other : chart.isOverlay ≠ job.window.isOverlay) :
      Unadmitted (.windowKind chart.id chart.isOverlay)

/-! ## Periods -/

/-- The period of a job in seconds, as the renderer reports it or as the width of an overlay. -/
inductive HasPeriod : Nat → Prop
  | reported {start stop report : String} {lines : List (List Char)} {first last : Nat}
      (window : job.window = .floating start stop)
      (answered : (renderer.answer history (job.periodProbe chart start stop)).outcome =
        .ok report)
      (read : reportLines (Utf8.encode report.toList) = .ok lines)
      (starts : Period.lastValue? .start lines = some first)
      (stops : Period.lastValue? .stop lines = some last)
      (ordered : first ≤ last) : HasPeriod (last - first)
  | overlaid {stop : String} {width depth total : Nat}
      (window : job.window = .overlay stop width depth)
      (span : overlaySpan width depth = .ok total) : HasPeriod width

/-- Why a job has no period. -/
inductive LacksPeriod : Failure → Prop
  | unanswered {start stop : String} {failure : Failure}
      (window : job.window = .floating start stop)
      (failed : (renderer.answer history (job.periodProbe chart start stop)).outcome =
        .error failure) : LacksPeriod failure
  | startMissing {start stop report : String} {lines : List (List Char)}
      (window : job.window = .floating start stop)
      (answered : (renderer.answer history (job.periodProbe chart start stop)).outcome =
        .ok report)
      (read : reportLines (Utf8.encode report.toList) = .ok lines)
      (missing : Period.lastValue? .start lines = none) :
      LacksPeriod (.detection (.fieldMissing .start))
  | stopMissing {start stop report : String} {lines : List (List Char)} {first : Nat}
      (window : job.window = .floating start stop)
      (answered : (renderer.answer history (job.periodProbe chart start stop)).outcome =
        .ok report)
      (read : reportLines (Utf8.encode report.toList) = .ok lines)
      (starts : Period.lastValue? .start lines = some first)
      (missing : Period.lastValue? .stop lines = none) :
      LacksPeriod (.detection (.fieldMissing .stop))
  | inverted {start stop report : String} {lines : List (List Char)} {first last : Nat}
      (window : job.window = .floating start stop)
      (answered : (renderer.answer history (job.periodProbe chart start stop)).outcome =
        .ok report)
      (read : reportLines (Utf8.encode report.toList) = .ok lines)
      (starts : Period.lastValue? .start lines = some first)
      (stops : Period.lastValue? .stop lines = some last)
      (reversed : last < first) : LacksPeriod (.detection (.periodInverted first last))
  | unspanned {stop : String} {width depth : Nat} {cause : Misuse}
      (window : job.window = .overlay stop width depth)
      (refused : overlaySpan width depth = .error cause) : LacksPeriod (.validation cause)

/-! ## Bounds -/

/-- The bounds that an axis is planned with. -/
inductive HasBounds (declarations : List String) : ValueBounds → Prop
  | unasked (unasked : job.range.wantsBounds = false ∨ chart.targets.isEmpty = true) :
      HasBounds declarations .unknown
  | reported {report : String} {lines : List (List Char)}
      (wanted : job.range.wantsBounds = true) (targets : chart.targets.isEmpty = false)
      (answered : (renderer.answer history ⟨.probe, boundsArguments job.window.timeFlags
        declarations chart.targets⟩).outcome = .ok report)
      (read : reportLines (Utf8.encode report.toList) = .ok lines)
      (ordered : ∀ least greatest,
        ValueBounds.lastLabelled? ValueBounds.leastLabel lines = some least →
        ValueBounds.lastLabelled? ValueBounds.greatestLabel lines = some greatest →
        ¬ greatest ≤ least) :
      HasBounds declarations ⟨ValueBounds.lastLabelled? ValueBounds.leastLabel lines,
        ValueBounds.lastLabelled? ValueBounds.greatestLabel lines⟩

/-- Why there are no bounds. -/
inductive LacksBounds (declarations : List String) : Failure → Prop
  | unanswered {failure : Failure} (wanted : job.range.wantsBounds = true)
      (targets : chart.targets.isEmpty = false)
      (failed : (renderer.answer history ⟨.probe, boundsArguments job.window.timeFlags
        declarations chart.targets⟩).outcome = .error failure) :
      LacksBounds declarations failure
  | inverted {report : String} {lines : List (List Char)} {least greatest : Float}
      (wanted : job.range.wantsBounds = true) (targets : chart.targets.isEmpty = false)
      (answered : (renderer.answer history ⟨.probe, boundsArguments job.window.timeFlags
        declarations chart.targets⟩).outcome = .ok report)
      (read : reportLines (Utf8.encode report.toList) = .ok lines)
      (isLeast : ValueBounds.lastLabelled? ValueBounds.leastLabel lines = some least)
      (isGreatest : ValueBounds.lastLabelled? ValueBounds.greatestLabel lines = some greatest)
      (reversed : greatest ≤ least) :
      LacksBounds declarations (.detection (.boundsInverted least greatest))

variable {job chart renderer history} {period : Nat} {declarations : List String}
  {bounds : ValueBounds}

/-! ## What the checks decide -/

theorem decides_checkRequest :
    Decides (job.checkRequest chart) (fun _ => job.Admitted chart) (job.Unadmitted chart) := by
  have percentage_ok (within : 0.0 ≤ job.errorPercentage ∧ job.errorPercentage < 50.0) :
      job.checkPercentage = .ok () := if_pos within
  have order_ok (ordered : ∀ lower upper, job.range.lower = some lower →
      job.range.upper = some upper → ¬ upper ≤ lower) : job.range.checkOrder = .ok () := by
    unfold RangeRequest.checkOrder
    split
    · rename_i lower upper isLower isUpper
      exact if_neg (ordered lower upper isLower isUpper)
    · rfl
  refine Decides.of_total ?_ ?_ ?_
  · intro _ admitted
    exact checkRequest_eq_ok_iff.mpr ⟨percentage_ok admitted.percentage,
      order_ok admitted.limits, checkWindow_eq_ok_iff.mpr admitted.window⟩
  · intro cause unadmitted
    cases unadmitted with
    | percentage outside =>
        have refused : job.checkPercentage = .error (.errorPercentage job.errorPercentage) :=
          if_neg outside
        rw [checkRequest, refused]
        rfl
    | @limits lower upper within isLower isUpper crossed =>
        have refused : job.range.checkOrder = .error (.limitsCrossed lower upper) := by
          rw [RangeRequest.checkOrder, isLower, isUpper]
          exact if_pos crossed
        rw [checkRequest, percentage_ok within, refused]
        rfl
    | window within ordered other =>
        have refused : job.checkWindow chart = .error (.windowKind chart.id chart.isOverlay) :=
          if_neg other
        rw [checkRequest, percentage_ok within, order_ok ordered, refused]
        rfl
  · by_cases within : 0.0 ≤ job.errorPercentage ∧ job.errorPercentage < 50.0
    · by_cases ordered : ∀ lower upper, job.range.lower = some lower →
          job.range.upper = some upper → ¬ upper ≤ lower
      · by_cases fits : chart.isOverlay = job.window.isOverlay
        · exact .inl ⟨(), within, ordered, fits⟩
        · exact .inr ⟨_, .window within ordered fits⟩
      · push Not at ordered
        obtain ⟨lower, upper, isLower, isUpper, crossed⟩ := ordered
        exact .inr ⟨_, .limits within isLower isUpper crossed⟩
    · exact .inr ⟨_, .percentage within⟩

/-- The period of a floating window that the renderer answers for. -/
theorem period_reported {start stop report : String} {lines : List (List Char)}
    (window : job.window = .floating start stop)
    (answered : (renderer.answer history (job.periodProbe chart start stop)).outcome = .ok report)
    (read : reportLines (Utf8.encode report.toList) = .ok lines) :
    job.period chart renderer history =
      (Period.ofLines lines).mapError .detection >>= fun period => .ok period.length := by
  rw [period, window]
  simp only [answered]
  change (periodOfReport report >>= fun period => .ok period.length) = _
  rw [periodOfReport, Period.ofReport, read]
  rfl

theorem period_overlay {stop : String} {width depth : Nat}
    (window : job.window = .overlay stop width depth) :
    job.period chart renderer history =
      (overlaySpan width depth).mapError .validation >>= fun _ => .ok width := by
  rw [period, window]
  rfl

/-- A period that is reported, in the order in which its fields are looked at. -/
theorem decides_period :
    Decides (job.period chart renderer history) (job.HasPeriod chart renderer history)
      (job.LacksPeriod chart renderer history) := by
  refine Decides.of_total ?_ ?_ ?_
  · intro seconds isPeriod
    cases isPeriod with
    | @reported start stop report lines first last window answered read starts stops ordered =>
        have known : Period.ofLines lines = .ok ⟨first, last⟩ := by
          rw [Period.ofLines, starts, stops]
          exact if_neg (not_lt.mpr ordered)
        have length : (last - first : Int).toNat = last - first := by omega
        rw [period_reported window answered read, known]
        exact congrArg Except.ok length
    | overlaid window span =>
        rw [period_overlay window, span]
        rfl
  · intro failure lacks
    cases lacks with
    | unanswered window failed =>
        rw [period, window]
        simp only [failed]
        rfl
    | @startMissing start stop report lines window answered read missing =>
        have unknown : Period.ofLines lines = .error (.fieldMissing .start) := by
          rw [Period.ofLines, missing]
        rw [period_reported window answered read, unknown]
        rfl
    | @stopMissing start stop report lines first window answered read starts missing =>
        have unknown : Period.ofLines lines = .error (.fieldMissing .stop) := by
          rw [Period.ofLines, starts, missing]
        rw [period_reported window answered read, unknown]
        rfl
    | @inverted start stop report lines first last window answered read starts stops reversed =>
        have unknown : Period.ofLines lines = .error (.periodInverted first last) := by
          rw [Period.ofLines, starts, stops]
          exact if_pos reversed
        rw [period_reported window answered read, unknown]
        rfl
    | unspanned window refused =>
        rw [period_overlay window, refused]
        rfl
  · cases window : job.window with
    | overlay stop width depth =>
        cases span : overlaySpan width depth with
        | ok total => exact .inl ⟨width, .overlaid window span⟩
        | error cause => exact .inr ⟨_, .unspanned window span⟩
    | floating start stop =>
        cases answered : (renderer.answer history (job.periodProbe chart start stop)).outcome with
        | error failure => exact .inr ⟨failure, .unanswered window answered⟩
        | ok report =>
            obtain ⟨lines, read⟩ := exists_reportLines report
            cases starts : Period.lastValue? .start lines with
            | none => exact .inr ⟨_, .startMissing window answered read starts⟩
            | some first =>
                cases stops : Period.lastValue? .stop lines with
                | none => exact .inr ⟨_, .stopMissing window answered read starts stops⟩
                | some last =>
                    rcases le_or_gt first last with ordered | reversed
                    · exact .inl ⟨_, .reported window answered read starts stops ordered⟩
                    · exact .inr ⟨_, .inverted window answered read starts stops reversed⟩

theorem decides_resolveTrend :
    Decides (job.resolveTrend period)
      (fun trendWindow => job.trend.resolve period = trendWindow ∧ trendWindow ≠ 0)
      (fun cause => job.trend.resolve period = 0 ∧ cause = .trendEmpty period) := by
  refine Decides.of_total ?_ ?_ ?_
  · rintro _ ⟨rfl, smoothed⟩
    exact if_neg smoothed
  · rintro _ ⟨empty, rfl⟩
    exact if_pos empty
  · by_cases empty : job.trend.resolve period = 0
    · exact .inr ⟨_, empty, rfl⟩
    · exact .inl ⟨_, rfl, empty⟩

theorem decides_bounds :
    Decides (job.bounds chart renderer history declarations)
      (job.HasBounds chart renderer history declarations)
      (job.LacksBounds chart renderer history declarations) := by
  have reported {report : String} {lines : List (List Char)}
      (wanted : job.range.wantsBounds = true) (targets : chart.targets.isEmpty = false)
      (answered : (renderer.answer history ⟨.probe, boundsArguments job.window.timeFlags
        declarations chart.targets⟩).outcome = .ok report)
      (read : reportLines (Utf8.encode report.toList) = .ok lines) :
      job.bounds chart renderer history declarations =
        (ValueBounds.ofLines lines).mapError .detection := by
    rw [bounds_of_asked wanted targets, answered]
    change boundsOfReport report = _
    rw [boundsOfReport, ValueBounds.ofReport, read]
    rfl
  refine Decides.of_total ?_ ?_ ?_
  · intro bounds areBounds
    cases areBounds with
    | unasked unasked => exact bounds_of_unasked unasked
    | @reported report lines wanted targets answered read ordered =>
        rw [reported wanted targets answered read, ValueBounds.ofLines]
        dsimp only
        split
        · rename_i least greatest isLeast isGreatest
          rw [if_neg (ordered least greatest isLeast isGreatest)]
          rfl
        · rfl
  · intro failure lacks
    cases lacks with
    | unanswered wanted targets failed =>
        rw [bounds_of_asked wanted targets, failed]
        rfl
    | @inverted report lines least greatest wanted targets answered read isLeast isGreatest
        reversed =>
        rw [reported wanted targets answered read, ValueBounds.ofLines]
        dsimp only
        rw [isLeast, isGreatest]
        dsimp only
        rw [if_pos reversed]
        rfl
  · rcases asked_or_unasked job chart with ⟨wanted, targets⟩ | unasked
    · cases answered : (renderer.answer history ⟨.probe, boundsArguments job.window.timeFlags
        declarations chart.targets⟩).outcome with
      | error failure => exact .inr ⟨failure, .unanswered wanted targets answered⟩
      | ok report =>
          obtain ⟨lines, read⟩ := exists_reportLines report
          by_cases ordered : ∀ least greatest,
              ValueBounds.lastLabelled? ValueBounds.leastLabel lines = some least →
              ValueBounds.lastLabelled? ValueBounds.greatestLabel lines = some greatest →
              ¬ greatest ≤ least
          · exact .inl ⟨_, .reported wanted targets answered read ordered⟩
          · push Not at ordered
            obtain ⟨least, greatest, isLeast, isGreatest, reversed⟩ := ordered
            exact .inr ⟨_, .inverted wanted targets answered read isLeast isGreatest reversed⟩
    · exact .inl ⟨_, .unasked unasked⟩

end ChartJob

end MainsCharts
