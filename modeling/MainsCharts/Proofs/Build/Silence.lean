import MainsCharts.Proofs.Build.Outcome

/-!
# Refusals without a call

A misuse is meant to be found before anything is run.  That is so for the checks of the request
and for the span of an overlay.  But a trend window that is empty is found once the period is
known, and limits that leave no range once the bounds are; so a floating window has been asked
for by then, and bounds may have been (`silent_iff`).
-/

namespace MainsCharts.ChartJob

set_option autoImplicit false

variable {job : ChartJob} {chart : Chart} {renderer : Renderer} {canvas : Canvas}
  {history : List Invocation}

/-- What a request that passes its checks asks. -/
theorem calls_of_admitted (admitted : job.Admitted chart) :
    job.calls chart renderer history = job.periodCalls chart ++
      Session.callsAfter (job.prepared chart renderer history) (job.boundsCalls chart) := by
  rw [calls, (decides_checkRequest.eq_ok_iff ()).mpr admitted]
  rfl

/-- A request that is refused asks nothing. -/
theorem calls_of_unadmitted {cause : Misuse} (unadmitted : job.Unadmitted chart cause) :
    job.calls chart renderer history = [] := by
  rw [calls, (decides_checkRequest.eq_error_iff cause).mpr unadmitted]
  rfl

/-- For the period only a floating window is asked for. -/
theorem periodCalls_eq_nil_iff :
    job.periodCalls chart = [] ↔ ∃ stop width depth, job.window = .overlay stop width depth := by
  unfold periodCalls
  cases job.window with
  | floating start stop =>
      refine iff_of_false (List.cons_ne_nil _ _) ?_
      rintro ⟨_, _, _, window⟩
      exact nomatch window
  | overlay stop width depth => exact iff_of_true rfl ⟨stop, width, depth, rfl⟩

theorem boundsCalls_eq_nil_iff {declarations : List String} :
    job.boundsCalls chart declarations = [] ↔
      job.range.wantsBounds = false ∨ chart.targets.isEmpty = true := by
  unfold boundsCalls
  cases job.range.wantsBounds <;> cases chart.targets.isEmpty <;> simp

/-- Of an overlay only the bounds are asked for. -/
theorem calls_of_overlay (overlay : job.periodCalls chart = []) :
    job.calls chart renderer history =
      Session.callsAfter (job.prepared chart renderer history) (job.boundsCalls chart) := by
  rw [calls_split, overlay]
  cases job.checkRequest chart <;> rfl

theorem callsAfter_eq_nil {α : Type} {outcome : Except Failure α} {further : α → List Invocation}
    (silent : ∀ value, outcome = .ok value → further value = []) :
    Session.callsAfter outcome further = [] := by
  cases outcome with
  | error failure => rfl
  | ok value => exact silent value rfl

/-- An overlay asks nothing when it cannot be spanned, when its trend window is empty, and when no
bounds are wanted. -/
theorem calls_of_silent {stop : String} {width depth : Nat}
    (window : job.window = .overlay stop width depth)
    (silent : (∃ cause, overlaySpan width depth = .error cause) ∨ job.trend.resolve width = 0 ∨
      job.range.wantsBounds = false ∨ chart.targets.isEmpty = true) :
    job.calls chart renderer history = [] := by
  rw [calls_of_overlay (periodCalls_eq_nil_iff.mpr ⟨stop, width, depth, window⟩)]
  refine callsAfter_eq_nil ?_
  intro declarations ready
  obtain ⟨_, period, trendWindow, isPeriod, smoothed, _⟩ := prepared_eq_ok_iff.mp ready
  have hasPeriod := (decides_period.eq_ok_iff period).mp isPeriod
  obtain ⟨isTrend, nonzero⟩ := (decides_resolveTrend.eq_ok_iff trendWindow).mp smoothed
  cases hasPeriod with
  | reported floating => exact nomatch window.symm.trans floating
  | overlaid overlay span =>
      obtain ⟨_, rfl, rfl⟩ := Window.overlay.inj (window.symm.trans overlay)
      rcases silent with ⟨_, refused⟩ | empty | unasked
      · exact nomatch span.symm.trans refused
      · exact absurd (isTrend.symm.trans empty) nonzero
      · exact boundsCalls_eq_nil_iff.mpr unasked

/-- A build that fails with a misuse and has asked nothing was refused by the checks of the
request, or is that of an overlay and failed before any bounds were asked for. -/
theorem of_silent {cause : Misuse}
    (refused : job.Refused chart renderer history (.validation cause))
    (silent : job.calls chart renderer history = []) :
    job.Unadmitted chart cause ∨ ∃ stop width depth, job.window = .overlay stop width depth ∧
      (overlaySpan width depth = .error cause ∨
        (job.trend.resolve width = 0 ∧ cause = .trendEmpty width) ∨
        (job.range.wantsBounds = false ∨ chart.targets.isEmpty = true) ∧
          ∃ lower upper, cause = .noRange lower upper) := by
  have parts (admitted : job.Admitted chart) :
      (∃ stop width depth, job.window = .overlay stop width depth) ∧
        Session.callsAfter (job.prepared chart renderer history) (job.boundsCalls chart) = [] := by
    rw [calls_of_admitted admitted] at silent
    obtain ⟨unasked, rest⟩ := List.append_eq_nil_iff.mp silent
    exact ⟨periodCalls_eq_nil_iff.mp unasked, rest⟩
  have unasked {period : Nat} {declarations : List String} (admitted : job.Admitted chart)
      (isPeriod : job.HasPeriod chart renderer history period)
      (smoothed : job.trend.resolve period ≠ 0)
      (declared : job.declarations chart period (job.trend.resolve period) = .ok declarations) :
      job.range.wantsBounds = false ∨ chart.targets.isEmpty = true := by
    have rest := (parts admitted).2
    rw [prepared_of_declared admitted isPeriod smoothed declared] at rest
    exact boundsCalls_eq_nil_iff.mp rest
  cases refused with
  | request unadmitted => exact .inl unadmitted
  | period admitted lacks =>
      obtain ⟨⟨stop, width, depth, window⟩, _⟩ := parts admitted
      cases lacks with
      | unanswered floating => exact nomatch window.symm.trans floating
      | unspanned overlay unspanned =>
          obtain ⟨rfl, rfl, rfl⟩ := Window.overlay.inj (window.symm.trans overlay)
          exact .inr ⟨_, _, _, window, .inl unspanned⟩
  | trend admitted isPeriod empty =>
      obtain ⟨⟨stop, width, depth, window⟩, _⟩ := parts admitted
      cases isPeriod with
      | reported floating => exact nomatch window.symm.trans floating
      | overlaid overlay _ =>
          obtain ⟨rfl, rfl, rfl⟩ := Window.overlay.inj (window.symm.trans overlay)
          exact .inr ⟨_, _, _, window, .inr (.inl ⟨empty, rfl⟩)⟩
  | bounds admitted isPeriod smoothed declared lacks =>
      have nothing := unasked admitted isPeriod smoothed declared
      cases lacks with
      | unanswered wanted targets =>
          rcases nothing with unwanted | untargeted
          · exact Bool.noConfusion (wanted.symm.trans unwanted)
          · exact Bool.noConfusion (targets.symm.trans untargeted)
  | range admitted isPeriod smoothed declared =>
      obtain ⟨stop, width, depth, window⟩ := (parts admitted).1
      have nothing := unasked admitted isPeriod smoothed declared
      exact .inr ⟨stop, width, depth, window, .inr (.inr ⟨nothing, _, _, rfl⟩)⟩

/-- **When a misuse is found before anything is run.**  A build that fails with a misuse has asked
nothing exactly when the checks of the request found it, or when the window is an overlay that
cannot be spanned, or has an empty trend window, or leaves no range without any bounds being
asked for.  In all other cases the renderer was asked. -/
theorem silent_iff {before : Transcript} {cause : Misuse}
    (failed : ((job.build chart renderer canvas).perform before).1 =
      .error (.validation cause)) :
    ((job.build chart renderer canvas).perform before).2.calls = before.calls ↔
      job.Unadmitted chart cause ∨ ∃ stop width depth, job.window = .overlay stop width depth ∧
        (overlaySpan width depth = .error cause ∨
          (job.trend.resolve width = 0 ∧ cause = .trendEmpty width) ∨
          (job.range.wantsBounds = false ∨ chart.targets.isEmpty = true) ∧
            ∃ lower upper, cause = .noRange lower upper) := by
  rw [(runs_build job chart renderer canvas before.calls before rfl).2, List.append_right_eq_self]
  constructor
  · exact of_silent (refused_of_build failed)
  · rintro (unadmitted | ⟨stop, width, depth, window, refused | ⟨empty, _⟩ | ⟨unasked, _⟩⟩)
    · exact calls_of_unadmitted unadmitted
    · exact calls_of_silent window (.inl ⟨cause, refused⟩)
    · exact calls_of_silent window (.inr (.inl empty))
    · exact calls_of_silent window (.inr (.inr unasked))

/-- Limits in the wrong order. -/
theorem silent_twoHours :
    ∃ cause, (((twoHours 1.0 0.0).build .overlap muteRenderer .standard).perform .empty).1 =
        .error (.validation cause) ∧
      (((twoHours 1.0 0.0).build .overlap muteRenderer .standard).perform .empty).2.calls = [] := by
  have unadmitted : (twoHours 1.0 0.0).Unadmitted .overlap (.limitsCrossed 1.0 0.0) :=
    .limits tenth_inRange rfl rfl (by decide)
  have failed : (((twoHours 1.0 0.0).build .overlap muteRenderer .standard).perform .empty).1 =
      .error (.validation (.limitsCrossed 1.0 0.0)) := build_of_refused (.request unadmitted)
  exact ⟨_, failed, (silent_iff failed).mpr (.inl unadmitted)⟩

/-! ## One day -/

/-- A renderer that reports a period of a day each time. -/
def oneDay : Renderer where
  program := "rrdtool"
  answer _ _ := ⟨.ok "graph_start = 0\ngraph_end = 86400\n", [], []⟩

/-- The last day, with a trend over no time at all. -/
def lastDayUntrended : ChartJob where
  path := "/var/lib/mains.rrd"
  image := "/tmp/mains.png"
  window := .floating "end-24h" "now"
  trend := .seconds 0
  errorPercentage := 0.1
  range := ⟨true, none, none⟩

/-- The renderer is asked for the period of a job that is then refused for its trend window. -/
theorem asked_lastDayUntrended :
    ((lastDayUntrended.build .normal oneDay .standard).perform .empty).1 =
        .error (.validation (.trendEmpty 86400)) ∧
      ((lastDayUntrended.build .normal oneDay .standard).perform .empty).2.calls =
        [⟨.probe, periodArguments "/var/lib/mains.rrd" "freq" "end-24h" "now"⟩] :=
  ⟨rfl, rfl⟩

end MainsCharts.ChartJob
