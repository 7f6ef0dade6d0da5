import MainsCharts.Proofs.Build.Silence

/-!
# What reaches a chart

Of what the renderer replies only two things reach a chart: how long the period is, and what the
bounds of the values are.  The period decides what is declared, and with that what is asked for
the bounds (`prepared_congr`); the bounds decide the limits of the axis and nothing else
(`finished_congr`).  When a period starts, which other lines are in a report and how its numbers
are written makes no difference.

The image reaches a command in one place, and no probe (`finished_withImage`).

Both are statements about two builds that are set side by side (`build_confined`).
-/

namespace MainsCharts

set_option autoImplicit false

/-- A renderer that answers what it has been asked before in the way in which it answered it. -/
def Renderer.IsSteady (renderer : Renderer) : Prop :=
  ∀ history other invocation,
    (renderer.answer other invocation).outcome = (renderer.answer history invocation).outcome

/-- A command with another image. -/
def Command.withImage (command : Command) (image : String) : Command :=
  { command with arguments := command.arguments.set 1 image }

namespace ChartJob

/-- A job with another image. -/
def withImage (job : ChartJob) (image : String) : ChartJob :=
  { job with image }

variable {job : ChartJob} {chart : Chart} {renderer other : Renderer} {canvas : Canvas}
  {history otherHistory : List Invocation} {before otherBefore : Transcript}
  {declarations : List String} {command otherCommand : Command}

/-! ## Two renderers -/

/-- What is declared depends on the renderer through the period alone. -/
theorem prepared_congr
    (samePeriod : job.period chart other otherHistory = job.period chart renderer history) :
    job.prepared chart other otherHistory = job.prepared chart renderer history := by
  rw [prepared, prepared, samePeriod]

/-- What comes of the declarations depends on the renderer through the bounds alone. -/
theorem finished_congr (named : other.program = renderer.program)
    (sameBounds : job.bounds chart other (otherHistory ++ job.periodCalls chart) declarations =
      job.bounds chart renderer (history ++ job.periodCalls chart) declarations) :
    job.finished chart other canvas otherHistory declarations =
      job.finished chart renderer canvas history declarations := by
  rw [finished, finished, sameBounds, named]

/-- What a build asks that has its declarations. -/
theorem calls_of_prepared
    (ready : job.prepared chart renderer history = .ok declarations) :
    job.calls chart renderer history =
      job.periodCalls chart ++ job.boundsCalls chart declarations := by
  obtain ⟨checked, -⟩ := prepared_eq_ok_iff.mp ready
  rw [calls_split, checked, ready]
  rfl

/-- The period of an overlay is the width of its stretches, whatever the renderer is. -/
theorem period_of_isOverlay (overlay : job.window.isOverlay = true) :
    job.period chart other otherHistory = job.period chart renderer history := by
  unfold period
  cases window : job.window with
  | floating start stop => exact nomatch window ▸ overlay
  | overlay stop width depth => rfl

/-- A build of an overlay that succeeds had its period, and any other renderer gives the same. -/
theorem exists_hasPeriod_of_overlay (overlay : chart.isOverlay = true)
    (ready : job.prepared chart renderer history = .ok declarations) :
    ∃ width, job.HasPeriod chart renderer history width ∧
      job.HasPeriod chart other otherHistory width := by
  obtain ⟨checked, width, _, resolved, -⟩ := prepared_eq_ok_iff.mp ready
  obtain ⟨-, -, fits⟩ := checkRequest_eq_ok_iff.mp checked
  have same : job.period chart other otherHistory = job.period chart renderer history :=
    period_of_isOverlay ((checkWindow_eq_ok_iff.mp fits).symm.trans overlay)
  exact ⟨width, (decides_period.eq_ok_iff width).mp resolved,
    (decides_period.eq_ok_iff width).mp (same.trans resolved)⟩

/-- Two builds with periods of one length ask the same and draw the same declarations, each with
the axis that its own bounds give. -/
theorem exists_of_builds (named : other.program = renderer.program)
    (built : ((job.build chart renderer canvas).perform before).1 = .ok command)
    (otherBuilt : ((job.build chart other canvas).perform otherBefore).1 = .ok otherCommand)
    {period : Nat} (isPeriod : job.HasPeriod chart renderer before.calls period)
    (isOtherPeriod : job.HasPeriod chart other otherBefore.calls period) :
    ∃ declarations plan otherPlan,
      ((job.build chart renderer canvas).perform before).2.calls =
        before.calls ++ (job.periodCalls chart ++ job.boundsCalls chart declarations) ∧
      ((job.build chart other canvas).perform otherBefore).2.calls =
        otherBefore.calls ++ (job.periodCalls chart ++ job.boundsCalls chart declarations) ∧
      command = ⟨renderer.program, job.arguments canvas plan declarations⟩ ∧
      otherCommand = ⟨renderer.program, job.arguments canvas otherPlan declarations⟩ ∧
      ∀ bounds,
        job.HasBounds chart renderer (before.calls ++ job.periodCalls chart) declarations bounds →
        job.HasBounds chart other (otherBefore.calls ++ job.periodCalls chart) declarations
          bounds →
        otherCommand = command := by
  have samePeriod : job.period chart other otherBefore.calls =
      job.period chart renderer before.calls :=
    ((decides_period.eq_ok_iff period).mpr isOtherPeriod).trans
      ((decides_period.eq_ok_iff period).mpr isPeriod).symm
  obtain ⟨declarations, _, plan, ready, -, -, isCommand⟩ := of_build_eq_ok built
  obtain ⟨_, _, otherPlan, otherReady, -, -, isOtherCommand⟩ := of_build_eq_ok otherBuilt
  obtain rfl := Except.ok.inj
    (otherReady.symm.trans ((prepared_congr samePeriod).trans ready))
  have runs := runs_build job chart renderer canvas before.calls before rfl
  have otherRuns := runs_build job chart other canvas otherBefore.calls otherBefore rfl
  refine ⟨_, plan, otherPlan, ?_, ?_, isCommand, named ▸ isOtherCommand, ?_⟩
  · rw [runs.2, calls_of_prepared ready]
  · rw [otherRuns.2, calls_of_prepared otherReady]
  · intro bounds areBounds areOtherBounds
    have sameBounds := ((decides_bounds.eq_ok_iff bounds).mpr areOtherBounds).trans
      ((decides_bounds.eq_ok_iff bounds).mpr areBounds).symm
    rw [otherRuns.1, otherReady] at otherBuilt
    rw [runs.1, ready] at built
    exact Except.ok.inj (otherBuilt.symm.trans ((finished_congr named sameBounds).trans built))

/-! ## Two images -/

/-- The image is the second argument of a command. -/
theorem arguments_withImage (image : String) (plan : AxisPlan) :
    (job.withImage image).arguments canvas plan declarations =
      (job.arguments canvas plan declarations).set 1 image :=
  rfl

/-- Nothing is declared from the image. -/
theorem prepared_withImage (image : String) :
    (job.withImage image).prepared chart renderer history = job.prepared chart renderer history :=
  rfl

/-- With another image the command is the same but for its image. -/
theorem finished_withImage (image : String) :
    (job.withImage image).finished chart renderer canvas history declarations =
      (job.finished chart renderer canvas history declarations).map (·.withImage image) := by
  have same : (job.withImage image).bounds chart renderer
      (history ++ (job.withImage image).periodCalls chart) declarations =
      job.bounds chart renderer (history ++ job.periodCalls chart) declarations := rfl
  have planned (bounds : ValueBounds) :
      (job.withImage image).planAxis chart bounds = job.planAxis chart bounds := rfl
  simp only [finished, same, planned, arguments_withImage]
  cases job.bounds chart renderer (history ++ job.periodCalls chart) declarations with
  | error failure => rfl
  | ok bounds =>
      simp only [bind, Except.bind]
      cases job.planAxis chart bounds <;> rfl

section Steady

variable (steady : renderer.IsSteady)
include steady

theorem period_of_isSteady :
    job.period chart renderer otherHistory = job.period chart renderer history := by
  unfold period
  cases job.window with
  | floating start stop => simp only [steady history otherHistory]
  | overlay stop width depth => rfl

theorem bounds_of_isSteady :
    job.bounds chart renderer otherHistory declarations =
      job.bounds chart renderer history declarations := by
  simp only [bounds, steady history otherHistory]

theorem prepared_of_isSteady :
    job.prepared chart renderer otherHistory = job.prepared chart renderer history :=
  prepared_congr (period_of_isSteady steady)

/-- With another image a steady renderer is asked the same. -/
theorem calls_withImage (image : String) :
    (((job.withImage image).build chart renderer canvas).perform otherBefore).2.calls =
      otherBefore.calls ++ job.calls chart renderer before.calls := by
  rw [(runs_build (job.withImage image) chart renderer canvas _ otherBefore rfl).2]
  have same : job.calls chart renderer otherBefore.calls =
      job.calls chart renderer before.calls := by
    rw [calls, calls, prepared_of_isSteady steady]
  exact congrArg (otherBefore.calls ++ ·) same

/-- With another image the outcome of a build is the same but for the image of the command. -/
theorem build_withImage (image : String) :
    (((job.withImage image).build chart renderer canvas).perform otherBefore).1 =
      ((job.build chart renderer canvas).perform before).1.map (·.withImage image) := by
  have ready : job.prepared chart renderer otherBefore.calls =
      job.prepared chart renderer before.calls := prepared_of_isSteady steady
  rw [(runs_build (job.withImage image) chart renderer canvas _ otherBefore rfl).1,
    (runs_build job chart renderer canvas _ before rfl).1, prepared_withImage, ready]
  cases job.prepared chart renderer before.calls with
  | error failure => rfl
  | ok declarations =>
      have same : job.finished chart renderer canvas otherBefore.calls declarations =
          job.finished chart renderer canvas before.calls declarations :=
        finished_congr rfl (bounds_of_isSteady steady)
      exact (finished_withImage image).trans (congrArg _ same)

end Steady

/-! ## Confinement -/

/-- **What the renderer's replies and the image reach.**  Take two renderers of one name with
which a job is built.  An overlay has the same period with both.  Whenever the periods are of one
length, the same is asked of both, and the commands have the same arguments but for the options
of the axis; when the bounds are the same, then so are the commands.

With another image a steady renderer is asked the same, and the build has the same failure or a
command with the same arguments but for the image. -/
theorem build_confined (job : ChartJob) (chart : Chart) (canvas : Canvas)
    {renderer other : Renderer} (named : other.program = renderer.program)
    (before otherBefore : Transcript) :
    (∀ command otherCommand,
      ((job.build chart renderer canvas).perform before).1 = .ok command →
      ((job.build chart other canvas).perform otherBefore).1 = .ok otherCommand →
      (chart.isOverlay = true → ∃ width, job.HasPeriod chart renderer before.calls width ∧
        job.HasPeriod chart other otherBefore.calls width) ∧
      ∀ period, job.HasPeriod chart renderer before.calls period →
        job.HasPeriod chart other otherBefore.calls period →
        ∃ declarations plan otherPlan,
          ((job.build chart renderer canvas).perform before).2.calls =
            before.calls ++ (job.periodCalls chart ++ job.boundsCalls chart declarations) ∧
          ((job.build chart other canvas).perform otherBefore).2.calls =
            otherBefore.calls ++ (job.periodCalls chart ++ job.boundsCalls chart declarations) ∧
          command = ⟨renderer.program, canvas.arguments job.image ++ job.window.timeFlags ++
            AxisPlan.arguments plan ++ declarations⟩ ∧
          otherCommand = ⟨renderer.program, canvas.arguments job.image ++ job.window.timeFlags ++
            AxisPlan.arguments otherPlan ++ declarations⟩ ∧
          ∀ bounds,
            job.HasBounds chart renderer (before.calls ++ job.periodCalls chart) declarations
              bounds →
            job.HasBounds chart other (otherBefore.calls ++ job.periodCalls chart) declarations
              bounds →
            otherCommand = command) ∧
    ∀ image, renderer.IsSteady →
      (∃ asked,
        ((job.build chart renderer canvas).perform before).2.calls = before.calls ++ asked ∧
        (((job.withImage image).build chart renderer canvas).perform otherBefore).2.calls =
          otherBefore.calls ++ asked) ∧
      (((job.withImage image).build chart renderer canvas).perform otherBefore).1 =
        ((job.build chart renderer canvas).perform before).1.map (·.withImage image) := by
  constructor
  · intro command otherCommand built otherBuilt
    obtain ⟨_, _, _, ready, -⟩ := of_build_eq_ok built
    exact ⟨fun overlay => exists_hasPeriod_of_overlay overlay ready,
      fun period => exists_of_builds named built otherBuilt⟩
  · intro image steady
    have asked := (runs_build job chart renderer canvas before.calls before rfl).2
    exact ⟨⟨_, asked, calls_withImage steady image⟩, build_withImage steady image⟩

/-! ## Two days -/

/-- A renderer that answers each invocation with one report. -/
def repeating (report : String) : Renderer where
  program := "rrdtool"
  answer _ _ := ⟨.ok report, [], []⟩

/-- A day with values around fifty. -/
def firstDay : Renderer :=
  repeating "graph_start = 0\ngraph_end = 86400\nMIN:49.5\nMAX:50.5\n"

/-- The day after, reported with another line in front and with commas in its numbers. -/
def nextDay : Renderer :=
  repeating "256x128\ngraph_start = 86400\ngraph_end = 172800\nMIN: 49,5\nMAX: 50,5\n"

/-- The last day, with the limits left to the values. -/
def lastDay : ChartJob :=
  { lastDayUntrended with trend := .seconds 60 }

/-- The last day is drawn when its length and the bounds of its values are reported. -/
theorem exists_build_lastDay {bounds : ValueBounds}
    (isPeriod : lastDay.HasPeriod .normal renderer [] 86400)
    (areBounds : ∀ declarations, lastDay.HasBounds .normal renderer
      ([] ++ lastDay.periodCalls .normal) declarations bounds) :
    ∃ command, ((lastDay.build .normal renderer .standard).perform .empty).1 = .ok command := by
  have admitted : lastDay.Admitted .normal := ⟨tenth_inRange, nofun, rfl⟩
  obtain ⟨declarations, declared⟩ := exists_declarations admitted isPeriod 60
  refine build_of_accepted ⟨admitted, isPeriod, by decide, declared, areBounds _, ?_⟩
  intro lower upper isPlan crossed
  have proper := isProper_of_bounds_eq_ok ((decides_bounds.eq_ok_iff bounds).mpr (areBounds []))
  exact isSome_ne_isSome_of_crossed admitted proper isPlan crossed rfl

/-- The chart of a day is the same as that of the next day when the values have the same
bounds. -/
theorem build_confined_lastDay :
    ∃ command,
      ((lastDay.build .normal firstDay .standard).perform .empty).1 = .ok command ∧
      ((lastDay.build .normal nextDay .standard).perform .empty).1 = .ok command := by
  have named : nextDay.program = firstDay.program := rfl
  have isPeriod : lastDay.HasPeriod .normal firstDay [] 86400 :=
    (decides_period.eq_ok_iff _).mp rfl
  have isNextPeriod : lastDay.HasPeriod .normal nextDay [] 86400 :=
    (decides_period.eq_ok_iff _).mp rfl
  have areBounds (declarations : List String) : lastDay.HasBounds .normal firstDay
      ([] ++ lastDay.periodCalls .normal) declarations ⟨some 49.5, some 50.5⟩ :=
    (decides_bounds.eq_ok_iff _).mp (bounds_of_asked rfl rfl)
  have areNextBounds (declarations : List String) : lastDay.HasBounds .normal nextDay
      ([] ++ lastDay.periodCalls .normal) declarations ⟨some 49.5, some 50.5⟩ :=
    (decides_bounds.eq_ok_iff _).mp (bounds_of_asked rfl rfl)
  obtain ⟨command, built⟩ := exists_build_lastDay isPeriod areBounds
  obtain ⟨nextCommand, nextBuilt⟩ := exists_build_lastDay isNextPeriod areNextBounds
  obtain ⟨-, confined⟩ :=
    (build_confined lastDay .normal .standard named .empty .empty).1 _ _ built nextBuilt
  obtain ⟨declarations, _, _, -, -, -, -, same⟩ := confined 86400 isPeriod isNextPeriod
  obtain rfl := same _ (areBounds declarations) (areNextBounds declarations)
  exact ⟨_, built, nextBuilt⟩

end ChartJob

end MainsCharts
