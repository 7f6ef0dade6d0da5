import MainsCharts.Proofs.Build.Course
import MainsCharts.Proofs.CommandLine.Filtering
import MainsCharts.Proofs.Session.Answers

/-!
# What the exit status tells

A run of the renderer succeeds with a report, exits with another status, is ended by a signal, or
does not take place (`Ended`).  Drawing a chart asks the renderer in the course of the build, and
once more when the command is executed (`asks_drawing`).  So at most the last of its runs has
failed, and the failure of that run is the failure of the whole, whether it is reworded by the build
or not.

The exit status is zero exactly when the build and the last run succeed; it is that of the
renderer when a run exited with another status, and one for every other failure
(`exitStatus_tells`).
-/

namespace MainsCharts

set_option autoImplicit false

/-! ## Sessions of a chart -/

/-- A report that cannot be read is not a failure of the renderer. -/
theorem isRenderers_of_reading {α : Type} {report : List UInt8}
    {read : List (List Char) → Except ReportFault α} {failure : Failure}
    (failed : (reportLines report >>= fun lines => (read lines).mapError .detection) =
      .error failure) : failure.isRenderers = false := by
  rw [reportLines] at failed
  cases lines : linesBeforeBlank (Text.lines report) with
  | error cause =>
      rw [lines] at failed
      obtain rfl := Except.error.inj failed
      rfl
  | ok known =>
      rw [lines] at failed
      replace failed : (read known).mapError Failure.detection = .error failure := failed
      cases verdict : read known with
      | error fault =>
          rw [verdict] at failed
          obtain rfl := Except.error.inj failed
          rfl
      | ok value =>
          rw [verdict] at failed
          exact nomatch failed

open Session

theorem asks_detectPeriod (renderer : Renderer) (path source start stop : String) :
    Asks renderer (detectPeriod renderer path source start stop) := by
  refine (Asks.ask .probe _).bind fun report => ?_
  refine (Asks.accept fun _ => isRenderers_of_reading).bind fun period => ?_
  exact (Asks.note _).bind fun _ => .pure _

theorem asks_probeBounds (renderer : Renderer) (timeFlags declarations : List String)
    (targets : ProbeTargets) :
    Asks renderer (probeBounds renderer timeFlags declarations targets) := by
  unfold probeBounds
  split
  · exact .pure _
  · exact (Asks.ask .probe _).bind fun report => .accept fun _ => isRenderers_of_reading

namespace ChartJob

variable (job : ChartJob) (chart : Chart) (renderer : Renderer) (canvas : Canvas)

theorem asks_resolvePeriod : Asks renderer (job.resolvePeriod chart renderer) := by
  unfold resolvePeriod
  split
  · exact (asks_detectPeriod renderer _ _ _ _).bind fun period => .pure _
  · exact (Asks.check _).bind fun _ => .pure _

theorem asks_resolveBounds (declarations : List String) :
    Asks renderer (job.resolveBounds chart renderer declarations) := by
  unfold resolveBounds
  split
  · refine (asks_probeBounds renderer _ _ _).bind fun bounds => ?_
    exact (Asks.note _).bind fun _ => .pure _
  · exact .pure _

/-- A build asks its renderer and no other. -/
theorem asks_build : Asks renderer (job.build chart renderer canvas) := by
  refine (Asks.check _).bind fun _ => ?_
  refine (asks_resolvePeriod job chart renderer).bind fun period => ?_
  refine (Asks.check _).bind fun trendWindow => ?_
  refine (Asks.note _).bind fun _ => ?_
  refine (Asks.check _).bind fun declarations => ?_
  refine (asks_resolveBounds job chart renderer declarations).bind fun bounds => ?_
  exact (Asks.check _).bind fun plan => .pure _

end ChartJob

theorem Command.asks_run (command : Command) (mode : RunMode) (renderer : Renderer) :
    Asks renderer (command.run mode renderer) := by
  cases mode with
  | print => exact .printLine _
  | execute =>
      refine (Asks.note _).bind fun _ => ?_
      exact (Asks.ask .execute _).bind fun _ => .pure _

/-! ## Endings -/

/-- What is learned from a run of the renderer that ended in some way, or did not take place. -/
inductive Ended (program : String) : Option Ending → Except Failure String → Prop
  | unlaunched (fault : SystemFault) : Ended program none (.error (.spawn program fault))
  | succeeded (report : String) : Ended program (some (.exited 0)) (.ok report)
  | exited {status : UInt8} (unsuccessful : status ≠ 0) (complaint : String) :
      Ended program (some (.exited status))
        (.error (.subprocess program (some status.toNat) complaint))
  | signalled (complaint : String) :
      Ended program (some .signalled) (.error (.subprocess program none complaint))

/-- That the runs of a renderer end in some ways, each after those before it. -/
def Renderer.EndsAs (renderer : Renderer)
    (ending? : List Invocation → Invocation → Option Ending) : Prop :=
  ∀ history call,
    Ended renderer.program (ending? history call) (renderer.answer history call).outcome

/-- How a program on a host ends, if it can be launched. -/
def Host.ending? (host : Host) (program : String) (history : List Invocation)
    (call : Invocation) : Option Ending :=
  match host.checkLaunch program call.arguments with
  | .error _ => none
  | .ok () => some (host.behaviour history call).ending

/-- The runs of a renderer on a host end as its program does. -/
theorem Host.endsAs_renderer (host : Host) (program : String) :
    (host.renderer program).EndsAs (host.ending? program) := by
  intro history call
  unfold ending? renderer
  dsimp only
  cases host.checkLaunch program call.arguments with
  | error fault => exact .unlaunched fault
  | ok =>
      dsimp only [replyOf]
      cases (host.behaviour history call).ending with
      | signalled => cases call.purpose <;> exact .signalled _
      | exited status =>
          by_cases success : status = 0
          · subst success
            cases call.purpose <;> exact .succeeded _
          · have failed : Ending.exited status ≠ .exited 0 := fun same =>
              success (Ending.exited.inj same)
            cases call.purpose <;> simp only [if_neg failed] <;> exact .exited success _

namespace CommandLine

variable {renderer : Renderer} {ending? : List Invocation → Invocation → Option Ending}
  {chart : Chart} {mode : RunMode} {job : ChartJob} {history : List Invocation}
  {call : Invocation} {failure : Failure} {before : Transcript}

/-- Only a run that exited with success has no failure. -/
theorem exists_outcome_eq_ok_iff (ends : renderer.EndsAs ending?) :
    (∃ report, (renderer.answer history call).outcome = .ok report) ↔
      ending? history call = some (.exited 0) := by
  have ended := ends history call
  revert ended
  generalize ending? history call = ending
  generalize (renderer.answer history call).outcome = outcome
  intro ended
  cases ended with
  | succeeded report => exact iff_of_true ⟨report, rfl⟩ rfl
  | exited unsuccessful => simp [unsuccessful]
  | unlaunched | signalled => simp

/-- A run that exited with a status of its own fails with it. -/
theorem exists_failure_of_exited (ends : renderer.EndsAs ending?) {status : UInt8}
    (exited : ending? history call = some (.exited status)) (unsuccessful : status ≠ 0) :
    ∃ failure, (renderer.answer history call).outcome = .error failure ∧
      failure.exitCode = some status.toNat := by
  have ended := ends history call
  rw [exited] at ended
  revert ended
  generalize (renderer.answer history call).outcome = outcome
  intro ended
  cases ended with
  | succeeded => exact absurd rfl unsuccessful
  | exited => exact ⟨_, rfl, rfl⟩

/-- A run that fails has no status, or exited with it. -/
theorem exited_of_failure (ends : renderer.EndsAs ending?)
    (failed : (renderer.answer history call).outcome = .error failure) :
    failure.exitCode = none ∨
      ∃ status, status ≠ 0 ∧ ending? history call = some (.exited status) := by
  have ended := ends history call
  rw [failed] at ended
  revert ended
  generalize ending? history call = ending
  intro ended
  cases ended with
  | unlaunched | signalled => exact .inl rfl
  | exited unsuccessful => exact .inr ⟨_, unsuccessful, rfl⟩

/-! ## Drawing -/

/-- The build of a chart with what is done with its command. -/
def drawing (renderer : Renderer) (chart : Chart) (mode : RunMode) (job : ChartJob) :
    Session Unit :=
  job.build chart renderer .standard >>= fun command => command.run mode renderer

theorem asks_drawing (renderer : Renderer) (chart : Chart) (mode : RunMode) (job : ChartJob) :
    Asks renderer (drawing renderer chart mode job) :=
  (job.asks_build chart renderer .standard).bind fun command => command.asks_run mode renderer

/-- A drawing is that session, its failures reworded so that their codes stay. -/
theorem draw_eq_drawing (renderer : Renderer) (chart : Chart) (mode : RunMode) (job : ChartJob)
    (before : Transcript) :
    (draw renderer chart mode job before).2 =
        ((drawing renderer chart mode job).perform before).2 ∧
      match ((drawing renderer chart mode job).perform before).1 with
      | .ok () => (draw renderer chart mode job before).1 = .ok ()
      | .error failure => ∃ reworded,
          (draw renderer chart mode job before).1 = .error reworded ∧
            reworded.code = failure.exitCode := by
  rw [draw, drawing, perform_bind]
  rcases (job.build chart renderer .standard).perform before with ⟨failure | command, after⟩
  · exact ⟨rfl, _, rfl, rfl⟩
  · dsimp only
    rcases (command.run mode renderer).perform after with ⟨failure | done, last⟩
    · exact ⟨rfl, _, rfl, rfl⟩
    · exact ⟨rfl, rfl⟩

/-- When a drawing succeeds: the build does, and so does the last run if there is one. -/
theorem draw_eq_ok_iff (ends : renderer.EndsAs ending?) :
    (draw renderer chart mode job before).1 = .ok () ↔
      ∃ command, ((job.build chart renderer .standard).perform before).1 = .ok command ∧
        (mode = .execute →
          ending? ((job.build chart renderer .standard).perform before).2.calls
            ⟨.execute, command.arguments⟩ = some (.exited 0)) := by
  rw [draw]
  rcases (job.build chart renderer .standard).perform before with ⟨failure | command, after⟩
  · simp
  · simp only [mapError_eq_ok_iff, Except.ok.injEq, exists_eq_left']
    cases mode with
    | print => exact iff_of_true rfl nofun
    | execute =>
        rw [forall_prop_of_true rfl, ← exists_outcome_eq_ok_iff ends]
        have yields : ((command.run .execute renderer).perform after).1 =
            ((renderer.answer after.calls ⟨.execute, command.arguments⟩).outcome >>=
              fun _ => .ok ()) :=
          (((runs_note after.calls _).silent_bind fun _ =>
            (runs_ask after.calls renderer .execute command.arguments).bind_silent
              fun _ => runs_pure _ ()) after rfl).1
        rw [yields]
        cases (renderer.answer after.calls ⟨.execute, command.arguments⟩).outcome with
        | error failure => exact iff_of_false nofun nofun
        | ok report => exact iff_of_true rfl ⟨report, rfl⟩

/-! ## Statuses -/

/-- What drawing a chart leaves behind. -/
def drawn (renderer : Renderer) (chart : Chart) (mode : RunMode) (job : ChartJob)
    (store : FileStore) : Outcome where
  verdict := (draw renderer chart mode job .empty).1
  transcript := (draw renderer chart mode job .empty).2
  store

/-- A status that tells of a failure is passed on. -/
theorem RunFailure.exitStatus_of_code {failure : RunFailure} {status : UInt8}
    (code : failure.code = some (status.toNat : Int)) (unsuccessful : status ≠ 0) :
    failure.exitStatus = status.toNat := by
  have positive : 0 < status.toNat :=
    Nat.pos_of_ne_zero fun zero => unsuccessful (UInt8.toNat_inj.mp zero)
  have bounded := status.toNat_lt
  rw [exitStatus, code]
  dsimp only
  rw [if_pos (by omega), Int.toNat_natCast]

/-- A failure without a status gives one. -/
theorem RunFailure.exitStatus_of_codeless {failure : RunFailure}
    (codeless : failure.code = none) : failure.exitStatus = 1 := by
  rw [exitStatus, codeless]

/-- A failed drawing exits as a failure with the code of its own. -/
theorem exists_exitStatus_of_failed {store : FileStore}
    (failed : ((drawing renderer chart mode job).perform .empty).1 = .error failure) :
    ∃ reworded : RunFailure,
      (ProgramResult.ofOutcome (drawn renderer chart mode job store)).exitStatus =
        reworded.exitStatus ∧
      reworded.code = failure.exitCode := by
  have same := (draw_eq_drawing renderer chart mode job .empty).2
  rw [failed] at same
  obtain ⟨reworded, isVerdict, code⟩ := same
  refine ⟨reworded, ?_, code⟩
  rw [ProgramResult.ofOutcome, drawn, isVerdict]

/-- A failure that is not the renderer's has no code. -/
theorem exitCode_of_isRenderers (own : failure.isRenderers = false) : failure.exitCode = none := by
  cases failure with
  | subprocess | spawn => exact nomatch own
  | validation | detection | stream => rfl

/-- What a status tells of a drawing: zero when the build succeeds and so does the last run,
if there is one; what a run exited with that was not successful, which is then the last; and one
for every other failure. -/
structure TellsWhoFailed (renderer : Renderer)
    (ending? : List Invocation → Invocation → Option Ending) (chart : Chart) (mode : RunMode)
    (job : ChartJob) (status : Nat) : Prop where
  zero_iff : status = 0 ↔
    ∃ command, ((job.build chart renderer .standard).perform .empty).1 = .ok command ∧
      (mode = .execute →
        ending? ((job.build chart renderer .standard).perform .empty).2.calls
          ⟨.execute, command.arguments⟩ = some (.exited 0))
  passed_on : ∀ earlier call later code,
    (draw renderer chart mode job .empty).2.calls = earlier ++ call :: later →
    ending? earlier call = some (.exited code) → code ≠ 0 →
    later = [] ∧ status = code.toNat
  one_otherwise : status ≠ 0 →
    (∀ earlier call later code,
      (draw renderer chart mode job .empty).2.calls = earlier ++ call :: later →
      ending? earlier call = some (.exited code) → code = 0) →
    status = 1

theorem tellsWhoFailed_drawn (ends : renderer.EndsAs ending?) (chart : Chart) (mode : RunMode)
    (job : ChartJob) (store : FileStore) :
    TellsWhoFailed renderer ending? chart mode job
      (ProgramResult.ofOutcome (drawn renderer chart mode job store)).exitStatus := by
  obtain ⟨sameTranscript, sameOutcome⟩ := draw_eq_drawing renderer chart mode job .empty
  obtain ⟨calls, adds, follows⟩ := (asks_drawing renderer chart mode job).follows .empty
  rw [← sameTranscript] at adds
  refine ⟨exitStatus_eq_zero_iff.trans (draw_eq_ok_iff ends), ?_, ?_⟩
  · intro earlier call later status split exited unsuccessful
    obtain ⟨failure, answered, code⟩ := exists_failure_of_exited ends exited unsuccessful
    obtain ⟨nothing, failed⟩ :=
      follows.stops earlier call later failure (adds.symm.trans split) answered
    obtain ⟨reworded, isStatus, same⟩ := exists_exitStatus_of_failed failed
    exact ⟨nothing, isStatus.trans
      (RunFailure.exitStatus_of_code (same.trans code) unsuccessful)⟩
  · intro failing unexited
    cases verdict : ((drawing renderer chart mode job).perform .empty).1 with
    | ok done =>
        rw [verdict] at sameOutcome
        exact absurd (exitStatus_eq_zero_iff.mpr sameOutcome) failing
    | error failure =>
        have codeless : failure.exitCode = none := by
          cases renderers : failure.isRenderers with
          | false => exact exitCode_of_isRenderers renderers
          | true =>
              -- The renderer's failure was its last answer, of a run that left no status.
              obtain ⟨earlier, call, isCalls, answered⟩ :=
                follows.answered failure verdict renderers
              refine (exited_of_failure ends answered).resolve_right ?_
              rintro ⟨status, unsuccessful, exited⟩
              exact unsuccessful (unexited earlier call [] status (adds.trans isCalls) exited)
        obtain ⟨reworded, isStatus, same⟩ := exists_exitStatus_of_failed verdict
        exact isStatus.trans (RunFailure.exitStatus_of_codeless (same.trans codeless))

/-! ## Command lines -/

variable {host : Host} {environment : Option String} {words : List String} {program : String}

theorem run_draw (asked : Request.read host.store environment words =
      .ok ⟨program, .draw chart mode job⟩) :
    run host environment words =
      .ofOutcome (drawn (host.renderer program) chart mode job host.store) := by
  rw [run, asked]
  rfl

/-- **The exit status tells who failed.**  For each command line that asks for a chart, this
holds of the renderer on the host, whose runs end as its program does, and of the drawing
with any other renderer whose runs end in some way or do not take place. -/
theorem exitStatus_tells
    (asked : Request.read host.store environment words =
      .ok ⟨program, .draw chart mode job⟩) :
    TellsWhoFailed (host.renderer program) (host.ending? program) chart mode job
        (run host environment words).exitStatus ∧
      ∀ renderer ending?, renderer.EndsAs ending? →
        TellsWhoFailed renderer ending? chart mode job
          (ProgramResult.ofOutcome (drawn renderer chart mode job host.store)).exitStatus := by
  refine ⟨?_, fun renderer ending? ends => tellsWhoFailed_drawn ends chart mode job host.store⟩
  rw [run_draw asked]
  exact tellsWhoFailed_drawn (host.endsAs_renderer program) chart mode job host.store

/-! ## A broken renderer -/

/-- A host with a database, and a renderer that exits with three whatever it is asked. -/
def workshop : Host where
  store :=
    { nodes :=
        [(["mains.rrd"], .file [] false), (["programs"], .directory),
          (["programs", "rrdtool"], .file [] true)]
      current := [] }
  programs := "/programs"
  behaviour := fun _ _ => ⟨[], [], .exited 3⟩

/-- What the command line of a chart asks for that gives nothing but the two paths. -/
def plainJob (chart : Chart) (database image : String) : ChartJob where
  path := database
  image
  window := Settings.none.window chart
  trend := .auto
  errorPercentage := 0.5
  range := ⟨true, none, none⟩

/-- A chart is asked for by its name and two paths, of a database that is there and of an image.
None of them may be empty or look like an option. -/
theorem read_chart {store : FileStore} {database source image : String}
    (environment : Option String) (chart : Chart)
    (there : store.validateSource database = .ok source)
    (given : ∀ path ∈ [database, image], path ≠ "" ∧ Word.of path.toList = .plain) :
    Request.read store environment [chart.id, database, image] =
      .ok ⟨environment.getD defaultProgram,
        .draw chart .execute (plainJob chart source image)⟩ := by
  obtain ⟨⟨-, first⟩, named, second⟩ :
      (database ≠ "" ∧ Word.of database.toList = .plain) ∧
        image ≠ "" ∧ Word.of image.toList = .plain := by
    simpa using given
  have known : Task.named? chart.id = some (.chart chart) := by
    cases chart <;> decide
  have other : chart.id ≠ helpCommand := by
    cases chart <;> decide
  simp [Request.read, readOuter, readTask, known, other, Progress.start, Progress.next,
    Progress.plain, Progress.positional, Progress.expected?, Progress.settle, Grammar.ofTask,
    Settings.none, Settings.give, CommandLine.given, readPath, readSource, there, Except.mapError,
    Settings.work, Settings.window, plainJob, bind, Except.bind, pure, Except.pure, first, second,
    named]

/-- A status of the period probe is passed on. -/
theorem exitStatus_tells_workshop :
    Request.read workshop.store none ["normal", "mains.rrd", "mains.png"] =
      .ok ⟨"rrdtool", .draw .normal .execute (plainJob .normal "/mains.rrd" "mains.png")⟩ ∧
    (run workshop none ["normal", "mains.rrd", "mains.png"]).exitStatus = 3 := by
  have located : workshop.store.locate "mains.rrd" = .ok ["mains.rrd"] := by
    decide +kernel
  have there : workshop.store.validateSource "mains.rrd" = .ok "/mains.rrd" := by
    rw [FileStore.validateSource, located]
    rfl
  have asked : Request.read workshop.store none ["normal", "mains.rrd", "mains.png"] =
      .ok ⟨"rrdtool", .draw .normal .execute (plainJob .normal "/mains.rrd" "mains.png")⟩ :=
    read_chart none .normal there (by decide)
  have calls : (draw (workshop.renderer "rrdtool") .normal .execute
      (plainJob .normal "/mains.rrd" "mains.png") .empty).2.calls =
      [] ++ (plainJob .normal "/mains.rrd" "mains.png").periodProbe .normal "end-24h" "now" ::
        [] := by
    decide +kernel
  have exited : workshop.ending? "rrdtool" []
      ((plainJob .normal "/mains.rrd" "mains.png").periodProbe .normal "end-24h" "now") =
      some (.exited 3) := by
    decide +kernel
  obtain ⟨tells, -⟩ := exitStatus_tells asked
  exact ⟨asked, (tells.passed_on _ _ _ _ calls exited (by decide)).2⟩

end CommandLine

end MainsCharts
