import MainsCharts.Build
import MainsCharts.Proofs.Chart.Balance
import MainsCharts.Proofs.Session.Trace

/-!
# The course of a build

A build asks the renderer at most twice.  It asks for the period once the request has
passed its checks, when the window is floating; and for the bounds of the values
once the declarations are there, when the bounds are wanted and the chart has scalars to
report.  What comes of a build and what it asks are given here as functions of the
job and the renderer's answers (`runs_build`).

The declarations that the bounds are probed with are those that are drawn, in the same
window of time (`build_trace`).
-/

namespace MainsCharts.ChartJob

set_option autoImplicit false

open Text

variable (job : ChartJob) (chart : Chart) (renderer : Renderer) (canvas : Canvas)
  (history : List Invocation)

/-! ## The period -/

/-- The invocation that asks which period two time specifications resolve to. -/
def periodProbe (start stop : String) : Invocation :=
  ⟨.probe, periodArguments job.path chart.source start stop⟩

/-- What a job asks for its period. -/
def periodCalls : List Invocation :=
  match job.window with
  | .floating start stop => [job.periodProbe chart start stop]
  | .overlay _ _ _ => []

/-- The period that a report gives. -/
def periodOfReport (report : String) : Except Failure Period :=
  Period.ofReport (Utf8.encode report.toList)

/-- The period of a job in seconds, with the renderer's answer where it is asked. -/
def period : Except Failure Nat :=
  match job.window with
  | .floating start stop => do
      let report ← (renderer.answer history (job.periodProbe chart start stop)).outcome
      let period ← periodOfReport report
      return period.length
  | .overlay _ width depth => do
      let _ ← (overlaySpan width depth).mapError .validation
      return width

theorem runs_detectPeriod (path source start stop : String) :
    (detectPeriod renderer path source start stop).Runs history
      ((renderer.answer history ⟨.probe, periodArguments path source start stop⟩).outcome >>=
        periodOfReport)
      [⟨.probe, periodArguments path source start stop⟩] := by
  refine (Session.runs_ask history renderer .probe _).bind_silent ?_
  intro report
  exact (Session.runs_accept _ (periodOfReport report)).noted Event.periodDetected

theorem runs_resolvePeriod :
    (job.resolvePeriod chart renderer).Runs history (job.period chart renderer history)
      (job.periodCalls chart) := by
  unfold resolvePeriod period periodCalls
  cases job.window with
  | floating start stop =>
      have detected := runs_detectPeriod renderer history job.path chart.source start stop
      have measured := detected.bind_silent fun period => Session.runs_pure _ period.length
      rw [bind_assoc] at measured
      exact measured
  | overlay stop width depth =>
      refine (Session.runs_check _ (overlaySpan width depth)).bind_silent ?_
      intro total
      exact Session.runs_pure _ width

/-! ## The bounds -/

/-- What a job asks for the bounds of its values. -/
def boundsCalls (declarations : List String) : List Invocation :=
  if job.range.wantsBounds && !chart.targets.isEmpty then
    [⟨.probe, boundsArguments job.window.timeFlags declarations chart.targets⟩]
  else []

/-- The bounds that a report gives. -/
def boundsOfReport (report : String) : Except Failure ValueBounds :=
  ValueBounds.ofReport (Utf8.encode report.toList)

/-- The bounds of the values, with the renderer's answer where it is asked. -/
def bounds (declarations : List String) : Except Failure ValueBounds :=
  if job.range.wantsBounds && !chart.targets.isEmpty then do
    let report ← (renderer.answer history
      ⟨.probe, boundsArguments job.window.timeFlags declarations chart.targets⟩).outcome
    boundsOfReport report
  else return .unknown

theorem runs_resolveBounds (declarations : List String) :
    (job.resolveBounds chart renderer declarations).Runs history
      (job.bounds chart renderer history declarations) (job.boundsCalls chart declarations) := by
  unfold resolveBounds bounds boundsCalls
  cases job.range.wantsBounds with
  | false => exact Session.runs_pure _ _
  | true =>
      rw [if_pos rfl, Bool.true_and]
      refine Session.Runs.noted ?_ _
      unfold probeBounds
      cases chart.targets.isEmpty with
      | true => exact Session.runs_pure _ _
      | false =>
          refine (Session.runs_ask history renderer .probe _).bind_silent ?_
          intro report
          exact Session.runs_accept _ (boundsOfReport report)

/-! ## The whole build -/

/-- The declarations of a job, when nothing fails before they are there. -/
def prepared : Except Failure (List String) := do
  (job.checkRequest chart).mapError .validation
  let period ← job.period chart renderer history
  let trendWindow ← (job.resolveTrend period).mapError .validation
  (job.declarations chart period trendWindow).mapError .validation

/-- What comes of the declarations of a job. -/
def finished (declarations : List String) : Except Failure Command := do
  let bounds ← job.bounds chart renderer (history ++ job.periodCalls chart) declarations
  let plan ← (job.planAxis chart bounds).mapError .validation
  return ⟨renderer.program, job.arguments canvas plan declarations⟩

/-- What a build asks the renderer. -/
def calls : List Invocation :=
  Session.callsAfter ((job.checkRequest chart).mapError Failure.validation) fun _ =>
    job.periodCalls chart ++
      Session.callsAfter (job.prepared chart renderer history) (job.boundsCalls chart)

/-- **A build yields its outcome and asks its calls.** -/
theorem runs_build :
    (job.build chart renderer canvas).Runs history
      (job.prepared chart renderer history >>= job.finished chart renderer canvas history)
      (job.calls chart renderer history) := by
  have course := (Session.runs_check history (job.checkRequest chart)).silent_bind fun _ =>
    (runs_resolvePeriod job chart renderer history).bind fun period =>
    (Session.runs_check _ (job.resolveTrend period)).silent_bind fun trendWindow =>
    (Session.runs_note _ (.chartChosen chart.about)).silent_bind fun _ =>
    (Session.runs_check _ (job.declarations chart period trendWindow)).silent_bind
      fun declarations =>
    (runs_resolveBounds job chart renderer _ declarations).bind_silent fun bounds =>
    (Session.runs_check _ (job.planAxis chart bounds)).bind_silent fun plan =>
    Session.runs_pure _ (⟨renderer.program, job.arguments canvas plan declarations⟩ : Command)
  unfold build calls prepared finished
  simp only [bind_assoc, Session.callsAfter_bind]
  cases checked : job.checkRequest chart with
  | error cause =>
      rw [checked] at course
      exact course
  | ok =>
      rw [checked] at course
      exact course

/-! ## What is drawn -/

variable {job chart renderer canvas history}

theorem checkRequest_eq_ok_iff :
    job.checkRequest chart = .ok () ↔
      job.checkPercentage = .ok () ∧ job.range.checkOrder = .ok () ∧
        job.checkWindow chart = .ok () := by
  constructor
  · intro checked
    obtain ⟨⟨⟩, percentage, checkedOthers⟩ := exists_of_bind_eq_ok checked
    obtain ⟨⟨⟩, order, window⟩ := exists_of_bind_eq_ok checkedOthers
    exact ⟨percentage, order, window⟩
  · rintro ⟨percentage, order, window⟩
    rw [checkRequest, percentage, order, window]
    rfl

/-- What is declared is a drawing of the chart. -/
theorem of_declarations_eq_ok {period trendWindow : Nat} {declarations : List String}
    (declared : job.declarations chart period trendWindow = .ok declarations) :
    ∃ drawing, chart.declare (job.context period trendWindow) = .ok drawing ∧
      checkNames drawing.arguments = .ok () ∧ declarations = drawing.arguments := by
  obtain ⟨drawing, drawn, checked⟩ := exists_of_bind_eq_ok declared
  obtain ⟨⟨⟩, unique, same⟩ := exists_of_bind_eq_ok checked
  exact ⟨drawing, drawn, unique, (Except.ok.inj same).symm⟩

/-- Everything before the bounds succeeds exactly when each step does. -/
theorem prepared_eq_ok_iff {declarations : List String} :
    job.prepared chart renderer history = .ok declarations ↔
      job.checkRequest chart = .ok () ∧ ∃ period trendWindow,
        job.period chart renderer history = .ok period ∧
        job.resolveTrend period = .ok trendWindow ∧
        job.declarations chart period trendWindow = .ok declarations := by
  constructor
  · intro ready
    obtain ⟨⟨⟩, checked, readyOthers⟩ := exists_of_bind_eq_ok ready
    obtain ⟨period, resolved, readyRest⟩ := exists_of_bind_eq_ok readyOthers
    obtain ⟨trendWindow, smoothed, declared⟩ := exists_of_bind_eq_ok readyRest
    exact ⟨mapError_eq_ok_iff.mp checked, period, trendWindow, resolved,
      mapError_eq_ok_iff.mp smoothed, mapError_eq_ok_iff.mp declared⟩
  · rintro ⟨checked, period, trendWindow, resolved, smoothed, declared⟩
    rw [prepared, checked, resolved]
    have ready : ((job.resolveTrend period).mapError Failure.validation >>= fun trendWindow =>
        (job.declarations chart period trendWindow).mapError .validation) = .ok declarations := by
      rw [smoothed]
      exact mapError_eq_ok_iff.mpr declared
    exact ready

/-- A command that is built draws what was declared. -/
theorem of_finished_eq_ok {declarations : List String} {command : Command}
    (done : job.finished chart renderer canvas history declarations = .ok command) :
    ∃ bounds plan,
      job.bounds chart renderer (history ++ job.periodCalls chart) declarations = .ok bounds ∧
      job.planAxis chart bounds = .ok plan ∧
      command = ⟨renderer.program, job.arguments canvas plan declarations⟩ := by
  obtain ⟨bounds, known, planned⟩ := exists_of_bind_eq_ok done
  obtain ⟨plan, fixed, same⟩ := exists_of_bind_eq_ok planned
  exact ⟨bounds, plan, known, mapError_eq_ok_iff.mp fixed, (Except.ok.inj same).symm⟩

/-- What a command that is built comes from. -/
theorem of_build_eq_ok {before : Transcript} {command : Command}
    (built : ((job.build chart renderer canvas).perform before).1 = .ok command) :
    ∃ declarations bounds plan,
      job.prepared chart renderer before.calls = .ok declarations ∧
      job.bounds chart renderer (before.calls ++ job.periodCalls chart) declarations =
        .ok bounds ∧
      job.planAxis chart bounds = .ok plan ∧
      command = ⟨renderer.program, job.arguments canvas plan declarations⟩ := by
  rw [(runs_build job chart renderer canvas before.calls before rfl).1] at built
  obtain ⟨declarations, ready, done⟩ := exists_of_bind_eq_ok built
  obtain ⟨bounds, plan, known, planned, same⟩ := of_finished_eq_ok done
  exact ⟨declarations, bounds, plan, ready, known, planned, same⟩

/-! ## Failed probes -/

variable (job chart renderer canvas)

theorem stopsAtFailure_resolvePeriod : (job.resolvePeriod chart renderer).StopsAtFailure := by
  unfold resolvePeriod
  cases job.window with
  | floating start stop =>
      refine Session.StopsAtFailure.bind ?_ fun _ => Session.stopsAtFailure_pure _
      refine (Session.stopsAtFailure_ask renderer .probe _).bind fun _ => ?_
      refine (Session.stopsAtFailure_accept _).bind fun _ => ?_
      exact (Session.stopsAtFailure_note _).bind fun _ => Session.stopsAtFailure_pure _
  | overlay stop width depth =>
      exact (Session.stopsAtFailure_check _).bind fun _ => Session.stopsAtFailure_pure _

theorem stopsAtFailure_resolveBounds (declarations : List String) :
    (job.resolveBounds chart renderer declarations).StopsAtFailure := by
  have probed : (probeBounds renderer job.window.timeFlags declarations
      chart.targets).StopsAtFailure := by
    unfold probeBounds
    cases chart.targets.isEmpty with
    | true => exact Session.stopsAtFailure_pure _
    | false =>
        exact (Session.stopsAtFailure_ask renderer .probe _).bind fun _ =>
          Session.stopsAtFailure_accept _
  unfold resolveBounds
  cases job.range.wantsBounds with
  | false => exact Session.stopsAtFailure_pure _
  | true =>
      refine probed.bind fun _ => ?_
      exact (Session.stopsAtFailure_note _).bind fun _ => Session.stopsAtFailure_pure _

/-- A failed probe ends the build with its failure. -/
theorem stopsAtFailure_build : (job.build chart renderer canvas).StopsAtFailure := by
  refine (Session.stopsAtFailure_check _).bind fun _ => ?_
  refine (stopsAtFailure_resolvePeriod job chart renderer).bind fun _ => ?_
  refine (Session.stopsAtFailure_check _).bind fun _ => ?_
  refine (Session.stopsAtFailure_note _).bind fun _ => ?_
  refine (Session.stopsAtFailure_check _).bind fun declarations => ?_
  refine (stopsAtFailure_resolveBounds job chart renderer declarations).bind fun _ => ?_
  exact (Session.stopsAtFailure_check _).bind fun _ => Session.stopsAtFailure_pure _

/-! ## The trace of a build -/

variable {job chart}

theorem calls_split :
    job.calls chart renderer history =
      Session.callsAfter ((job.checkRequest chart).mapError Failure.validation)
          (fun _ => job.periodCalls chart) ++
        Session.callsAfter (job.prepared chart renderer history) (job.boundsCalls chart) := by
  unfold calls prepared
  cases job.checkRequest chart <;> rfl

theorem mem_periodCalls {call : Invocation} :
    call ∈ job.periodCalls chart ↔
      ∃ start stop, job.window = .floating start stop ∧
        call = job.periodProbe chart start stop := by
  unfold periodCalls
  cases job.window with
  | floating start stop => simp
  | overlay stop width depth => simp

theorem mem_boundsCalls {declarations : List String} {call : Invocation} :
    call ∈ job.boundsCalls chart declarations ↔
      job.range.detect = true ∧ job.range.isComplete = false ∧ chart.targets.isEmpty = false ∧
        call = ⟨.probe, boundsArguments job.window.timeFlags declarations chart.targets⟩ := by
  unfold boundsCalls RangeRequest.wantsBounds
  cases job.range.detect <;> cases job.range.isComplete <;> cases chart.targets.isEmpty <;> simp

theorem length_callsAfter_le {α : Type} {outcome : Except Failure α}
    {further : α → List Invocation} {most : Nat}
    (bounded : ∀ value, (further value).length ≤ most) :
    (Session.callsAfter outcome further).length ≤ most := by
  cases outcome with
  | error failure => exact Nat.zero_le most
  | ok value => exact bounded value

theorem length_periodCalls_le : (job.periodCalls chart).length ≤ 1 := by
  unfold periodCalls
  cases job.window with
  | floating start stop => exact Nat.le_refl 1
  | overlay stop width depth => exact Nat.zero_le 1

theorem length_boundsCalls_le (declarations : List String) :
    (job.boundsCalls chart declarations).length ≤ 1 := by
  unfold boundsCalls
  split
  · exact Nat.le_refl 1
  · exact Nat.zero_le 1

variable (job chart)

/-- **The trace of a build.**  A build makes two calls at most, and only to probe.  The first
asks for the period, exactly when the request passed its checks and the window is
floating; the second asks for the bounds, exactly when the declarations are there, the
bounds may be detected, a limit is missing and the chart has scalars to report.  A call
that fails is the last one, and its failure is that of the build.  A command that is
built starts the same renderer, with the time flags and the declarations of the second
call, and none of them prints into the report. -/
theorem build_trace (before : Transcript) :
    (∃ periodCalls boundsCalls,
      ((job.build chart renderer canvas).perform before).2.calls =
          before.calls ++ (periodCalls ++ boundsCalls) ∧
      periodCalls.length ≤ 1 ∧ boundsCalls.length ≤ 1 ∧
      (∀ call, call ∈ periodCalls ↔
        job.checkPercentage = .ok () ∧ job.range.checkOrder = .ok () ∧
          job.checkWindow chart = .ok () ∧ ∃ start stop, job.window = .floating start stop ∧
            call = ⟨.probe, ["graphv", "/dev/null", "--start", start, "--end", stop, "--width",
              "256", "--height", "128", "--full-size-mode"] ++
                (periodElements job.path chart.source).map Element.text⟩) ∧
      (∀ call, call ∈ boundsCalls ↔ ∃ declarations,
        job.prepared chart renderer before.calls = .ok declarations ∧
          job.range.detect = true ∧ job.range.isComplete = false ∧
          chart.targets.isEmpty = false ∧
            call = ⟨.probe, "graph" :: "/dev/null" ::
              (job.window.timeFlags ++ declarations ++ chart.targets.arguments)⟩)) ∧
    (∃ added, ((job.build chart renderer canvas).perform before).2.exchanges =
        before.exchanges ++ added ∧
      ∀ earlier exchange later failure, added = earlier ++ exchange :: later →
        exchange.reply.outcome = .error failure →
        later = [] ∧ ((job.build chart renderer canvas).perform before).1 = .error failure) ∧
    ∀ command, ((job.build chart renderer canvas).perform before).1 = .ok command →
      command.program = renderer.program ∧ ∃ declarations plan,
        job.prepared chart renderer before.calls = .ok declarations ∧
        command.arguments = canvas.arguments job.image ++ job.window.timeFlags ++
          AxisPlan.arguments plan ++ declarations ∧
        ∀ argument ∈ declarations, after? "PRINT:".toList argument.toList = none := by
  have adds := (runs_build job chart renderer canvas before.calls before rfl).2
  rw [calls_split] at adds
  refine ⟨⟨_, _, adds, ?_, ?_, ?_, ?_⟩, stopsAtFailure_build job chart renderer canvas before, ?_⟩
  · exact length_callsAfter_le fun _ => length_periodCalls_le
  · exact length_callsAfter_le length_boundsCalls_le
  · intro call
    simp only [Session.mem_callsAfter, mapError_eq_ok_iff, mem_periodCalls]
    constructor
    · rintro ⟨⟨⟩, checked, start, stop, floating, rfl⟩
      obtain ⟨percentage, order, window⟩ := checkRequest_eq_ok_iff.mp checked
      exact ⟨percentage, order, window, start, stop, floating, rfl⟩
    · rintro ⟨percentage, order, window, start, stop, floating, rfl⟩
      exact ⟨(), checkRequest_eq_ok_iff.mpr ⟨percentage, order, window⟩, start, stop, floating,
        rfl⟩
  · intro call
    simp only [Session.mem_callsAfter, mem_boundsCalls]
    rfl
  · intro command built
    obtain ⟨declarations, _, plan, ready, _, _, rfl⟩ := of_build_eq_ok built
    obtain ⟨_, _, _, _, _, declared⟩ := prepared_eq_ok_iff.mp ready
    obtain ⟨drawing, drawn, _, rfl⟩ := of_declarations_eq_ok declared
    exact ⟨rfl, drawing.arguments, plan, ready, rfl, Chart.not_printed drawn⟩

end MainsCharts.ChartJob
