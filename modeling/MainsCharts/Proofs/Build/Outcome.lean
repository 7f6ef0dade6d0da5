import MainsCharts.Proofs.Build.Checks

/-!
# What comes of a build

A build goes through its checks one after the other and fails with the first that fails.  So it
succeeds exactly when all of them pass (`Accepted`), and otherwise fails with what the first
check that does not pass fails with (`Refused`): these are all the cases (`build_outcome`).

Two of the steps cannot fail.  The declarations are there once the period is known
(`exists_declarations`), and a plan that is made from bounds alone always leaves a range to
draw, so that the ends of the axis are out of order only when one limit was given and the
other one was not (`isSome_ne_isSome_of_crossed`).
-/

namespace MainsCharts.ChartJob

set_option autoImplicit false

open AxisPlan Numeral

variable (job : ChartJob) (chart : Chart) (renderer : Renderer) (history : List Invocation)

/-- The plan of the axis before its ends are compared. -/
def axisPlan (bounds : ValueBounds) : AxisPlan :=
  (fromBounds bounds chart.floor).withExplicit job.range.lower job.range.upper

/-- That every check of a build passes. -/
inductive Accepted : Prop
  | intro {period : Nat} {declarations : List String} {bounds : ValueBounds}
      (admitted : job.Admitted chart) (isPeriod : job.HasPeriod chart renderer history period)
      (smoothed : job.trend.resolve period ≠ 0)
      (declared : job.declarations chart period (job.trend.resolve period) = .ok declarations)
      (areBounds : job.HasBounds chart renderer (history ++ job.periodCalls chart) declarations
        bounds)
      (ranged : ∀ lower upper, job.axisPlan chart bounds = .rigid lower upper →
        ¬ upper ≤ lower) : Accepted

/-- What a build fails with: what the first check that does not pass fails with. -/
inductive Refused : Failure → Prop
  | request {cause : Misuse} (unadmitted : job.Unadmitted chart cause) :
      Refused (.validation cause)
  | period {failure : Failure} (admitted : job.Admitted chart)
      (lacks : job.LacksPeriod chart renderer history failure) : Refused failure
  | trend {period : Nat} (admitted : job.Admitted chart)
      (isPeriod : job.HasPeriod chart renderer history period)
      (empty : job.trend.resolve period = 0) : Refused (.validation (.trendEmpty period))
  | bounds {period : Nat} {declarations : List String} {failure : Failure}
      (admitted : job.Admitted chart) (isPeriod : job.HasPeriod chart renderer history period)
      (smoothed : job.trend.resolve period ≠ 0)
      (declared : job.declarations chart period (job.trend.resolve period) = .ok declarations)
      (lacks : job.LacksBounds chart renderer (history ++ job.periodCalls chart) declarations
        failure) : Refused failure
  | range {period : Nat} {declarations : List String} {bounds : ValueBounds}
      {lower upper : Float} (admitted : job.Admitted chart)
      (isPeriod : job.HasPeriod chart renderer history period)
      (smoothed : job.trend.resolve period ≠ 0)
      (declared : job.declarations chart period (job.trend.resolve period) = .ok declarations)
      (areBounds : job.HasBounds chart renderer (history ++ job.periodCalls chart) declarations
        bounds)
      (isPlan : job.axisPlan chart bounds = .rigid lower upper) (crossed : upper ≤ lower) :
      Refused (.validation (.noRange lower upper))

variable {job chart renderer history} {canvas : Canvas} {period : Nat} {declarations : List String}
  {bounds : ValueBounds}

/-! ## Steps that cannot fail -/

/-- **The declarations are there** once the period is known. -/
theorem exists_declarations (admitted : job.Admitted chart)
    (isPeriod : job.HasPeriod chart renderer history period) (trendWindow : Nat) :
    ∃ declarations, job.declarations chart period trendWindow = .ok declarations := by
  have suits : chart.Suits (job.context period trendWindow) := by
    intro overlay
    cases isPeriod with
    | reported window =>
        have floating := admitted.window
        rw [overlay, window] at floating
        exact nomatch floating
    | overlaid window span => exact ⟨_, _, _, _, window, span⟩
  obtain ⟨drawing, drawn⟩ := Chart.exists_declare_iff.mpr suits
  refine ⟨drawing.arguments, ?_⟩
  rw [ChartJob.declarations, drawn]
  simp only [bind, Except.bind, Chart.checkNames_declare drawn]
  rfl

theorem emptyRange?_eq_none {plan : AxisPlan}
    (ranged : ∀ lower upper, plan = .rigid lower upper → ¬ upper ≤ lower) :
    plan.emptyRange? = none := by
  cases plan with
  | rigid lower upper => exact if_neg (ranged lower upper rfl)
  | partly | automatic => rfl

theorem decides_planAxis :
    Decides (job.planAxis chart bounds)
      (fun plan => plan = job.axisPlan chart bounds ∧
        ∀ lower upper, plan = .rigid lower upper → ¬ upper ≤ lower)
      (fun cause => ∃ lower upper, job.axisPlan chart bounds = .rigid lower upper ∧
        upper ≤ lower ∧ cause = .noRange lower upper) := by
  refine Decides.of_total ?_ ?_ ?_
  · rintro _ ⟨rfl, ranged⟩
    exact planAxis_eq_ok_iff.mpr ⟨rfl, emptyRange?_eq_none ranged⟩
  · rintro _ ⟨lower, upper, isPlan, crossed, rfl⟩
    have empty : (job.axisPlan chart bounds).emptyRange? = some (lower, upper) := by
      rw [isPlan]
      exact if_pos crossed
    unfold axisPlan at empty
    simp only [planAxis, empty]
  · by_cases ranged : ∀ lower upper, job.axisPlan chart bounds = .rigid lower upper →
        ¬ upper ≤ lower
    · exact .inl ⟨_, rfl, ranged⟩
    · push Not at ranged
      obtain ⟨lower, upper, isPlan, crossed⟩ := ranged
      exact .inr ⟨_, lower, upper, isPlan, crossed, rfl⟩

/-- **The limits of a plan** are out of order only when exactly one of them was given.  Those
that were both given have been compared, and bounds alone leave a range. -/
theorem isSome_ne_isSome_of_crossed {lower upper : Float} (admitted : job.Admitted chart)
    (proper : bounds.IsProper) (isPlan : job.axisPlan chart bounds = .rigid lower upper)
    (crossed : upper ≤ lower) : job.range.lower.isSome ≠ job.range.upper.isSome := by
  rw [axisPlan] at isPlan
  cases isLower : job.range.lower with
  | some least =>
      cases isUpper : job.range.upper with
      | none => exact Bool.noConfusion
      | some greatest =>
          rw [isLower, isUpper] at isPlan
          obtain ⟨rfl, rfl⟩ := AxisPlan.rigid.inj isPlan
          exact absurd crossed (admitted.limits _ _ isLower isUpper)
  | none =>
      cases isUpper : job.range.upper with
      | some greatest => exact Bool.noConfusion
      | none =>
          rw [isLower, isUpper] at isPlan
          have finite (base : Float) (isFloor : chart.floor = some base) :
              ∃ number, exactValue? base = some number := Chart.exists_of_floor isFloor
          have ranged := emptyRange?_fromBounds proper finite
          change fromBounds bounds chart.floor = _ at isPlan
          rw [isPlan, emptyRange?, if_pos crossed] at ranged
          cases ranged

/-! ## Outcomes -/

/-- The declarations are there when the request, the period and the trend window are. -/
theorem prepared_of_declared (admitted : job.Admitted chart)
    (isPeriod : job.HasPeriod chart renderer history period)
    (smoothed : job.trend.resolve period ≠ 0)
    (declared : job.declarations chart period (job.trend.resolve period) = .ok declarations) :
    job.prepared chart renderer history = .ok declarations :=
  prepared_eq_ok_iff.mpr ⟨(decides_checkRequest.eq_ok_iff ()).mpr admitted, period, _,
    (decides_period.eq_ok_iff period).mpr isPeriod,
    (decides_resolveTrend.eq_ok_iff _).mpr ⟨rfl, smoothed⟩, declared⟩

theorem build_of_accepted {before : Transcript}
    (accepted : job.Accepted chart renderer before.calls) :
    ∃ command, ((job.build chart renderer canvas).perform before).1 = .ok command := by
  obtain ⟨admitted, isPeriod, smoothed, declared, areBounds, ranged⟩ := accepted
  have ready := prepared_of_declared admitted isPeriod smoothed declared
  exact ⟨_, build_eq_ok_iff.mpr ⟨_, _, _, ready, (decides_bounds.eq_ok_iff _).mpr areBounds,
    (decides_planAxis.eq_ok_iff _).mpr ⟨rfl, ranged⟩, rfl⟩⟩

theorem bind_eq_error {ε α β : Type} {first : Except ε α} {next : α → Except ε β} {value : α}
    {error : ε} (yields : first = .ok value) (fails : next value = .error error) :
    (first >>= next) = .error error := by
  rw [yields]
  exact fails

theorem build_of_refused {before : Transcript} {failure : Failure}
    (refused : job.Refused chart renderer before.calls failure) :
    ((job.build chart renderer canvas).perform before).1 = .error failure := by
  rw [(runs_build job chart renderer canvas before.calls before rfl).1]
  cases refused with
  | request unadmitted =>
      rw [prepared, (decides_checkRequest.eq_error_iff _).mpr unadmitted]
      rfl
  | period admitted lacks =>
      rw [prepared, (decides_checkRequest.eq_ok_iff ()).mpr admitted,
        (decides_period.eq_error_iff _).mpr lacks]
      rfl
  | @trend period admitted isPeriod empty =>
      have unsmoothed : (job.resolveTrend period).mapError Failure.validation =
          .error (.validation (.trendEmpty period)) := by
        rw [(decides_resolveTrend.eq_error_iff _).mpr ⟨empty, rfl⟩]
        rfl
      rw [prepared, (decides_checkRequest.eq_ok_iff ()).mpr admitted,
        (decides_period.eq_ok_iff _).mpr isPeriod]
      change ((job.resolveTrend period).mapError _ >>= _) >>= _ = _
      rw [unsmoothed]
      rfl
  | bounds admitted isPeriod smoothed declared lacks =>
      refine bind_eq_error (prepared_of_declared admitted isPeriod smoothed declared) ?_
      rw [finished, (decides_bounds.eq_error_iff _).mpr lacks]
      rfl
  | range admitted isPeriod smoothed declared areBounds isPlan crossed =>
      refine bind_eq_error (prepared_of_declared admitted isPeriod smoothed declared) ?_
      refine bind_eq_error ((decides_bounds.eq_ok_iff _).mpr areBounds) ?_
      rw [(decides_planAxis.eq_error_iff _).mpr ⟨_, _, isPlan, crossed, rfl⟩]
      rfl

theorem accepted_or_refused (job : ChartJob) (chart : Chart) (renderer : Renderer)
    (history : List Invocation) :
    job.Accepted chart renderer history ∨
      ∃ failure, job.Refused chart renderer history failure := by
  rcases decides_checkRequest.total with ⟨_, admitted⟩ | ⟨_, unadmitted⟩
  swap
  · exact .inr ⟨_, .request unadmitted⟩
  rcases decides_period.total with ⟨period, isPeriod⟩ | ⟨_, lacks⟩
  swap
  · exact .inr ⟨_, .period admitted lacks⟩
  by_cases empty : job.trend.resolve period = 0
  · exact .inr ⟨_, .trend admitted isPeriod empty⟩
  obtain ⟨declarations, declared⟩ :=
    exists_declarations admitted isPeriod (job.trend.resolve period)
  rcases decides_bounds.total with ⟨bounds, areBounds⟩ | ⟨_, lacks⟩
  swap
  · exact .inr ⟨_, .bounds admitted isPeriod empty declared lacks⟩
  rcases decides_planAxis.total with ⟨_, rfl, ranged⟩ | ⟨_, lower, upper, isPlan, crossed, _⟩
  · exact .inl ⟨admitted, isPeriod, empty, declared, areBounds, ranged⟩
  · exact .inr ⟨_, .range admitted isPeriod empty declared areBounds isPlan crossed⟩

theorem refused_of_build {before : Transcript} {failure : Failure}
    (failed : ((job.build chart renderer canvas).perform before).1 = .error failure) :
    job.Refused chart renderer before.calls failure := by
  rcases accepted_or_refused job chart renderer before.calls with accepted | ⟨_, refused⟩
  · obtain ⟨command, built⟩ :
        ∃ command, ((job.build chart renderer canvas).perform before).1 = .ok command :=
      build_of_accepted accepted
    exact nomatch built.symm.trans failed
  · obtain rfl := Except.error.inj (failed.symm.trans (build_of_refused refused))
    exact refused

/-- **What comes of a build.**  It yields a command exactly when all of its checks pass, and
otherwise fails with what the first one that does not pass fails with.  The declarations are
never the reason, and the ends of the axis only when exactly one limit was given. -/
theorem build_outcome (job : ChartJob) (chart : Chart) (renderer : Renderer) (canvas : Canvas)
    (before : Transcript) :
    ((∃ command, ((job.build chart renderer canvas).perform before).1 = .ok command) ↔
      job.Accepted chart renderer before.calls) ∧
    (∀ failure, ((job.build chart renderer canvas).perform before).1 = .error failure ↔
      job.Refused chart renderer before.calls failure) ∧
    (∀ period trendWindow, job.Admitted chart →
      job.HasPeriod chart renderer before.calls period →
      ∃ declarations, job.declarations chart period trendWindow = .ok declarations) ∧
    ∀ declarations bounds lower upper, job.Admitted chart →
      job.HasBounds chart renderer (before.calls ++ job.periodCalls chart) declarations bounds →
      job.axisPlan chart bounds = .rigid lower upper → upper ≤ lower →
      job.range.lower.isSome ≠ job.range.upper.isSome := by
  refine ⟨⟨?_, build_of_accepted⟩, fun failure => ⟨refused_of_build, build_of_refused⟩,
    fun _ trendWindow admitted isPeriod => exists_declarations admitted isPeriod trendWindow, ?_⟩
  · rintro ⟨command, built⟩
    rcases accepted_or_refused job chart renderer before.calls with accepted | ⟨_, refused⟩
    · exact accepted
    · exact nomatch built.symm.trans (build_of_refused refused)
  · intro declarations bounds lower upper admitted areBounds
    exact isSome_ne_isSome_of_crossed admitted
      (isProper_of_bounds_eq_ok ((decides_bounds.eq_ok_iff bounds).mpr areBounds))

end MainsCharts.ChartJob
