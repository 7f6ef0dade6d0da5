import MainsCharts.CommandLine.Request
import MainsCharts.Dump

/-!
# Running a request

A request to draw builds the chart and prints or executes its command.  A request
to filter reads the blacklist, makes the output, reads the dump and writes what
is left of it; what could be read before a fault is written all the same.

The exit status is the renderer's own where it left one, and one for every other
failure.
-/

namespace MainsCharts.CommandLine

set_option autoImplicit false

/-- What made a run fail. -/
inductive RunFailure where
  | building (chart : Chart) (path : String) (cause : Failure)
  | drawing (cause : Failure)
  | opening (path : String) (fault : SystemFault)
  | creating (path : String) (fault : SystemFault)
  | reading (fault : StreamFault)

namespace RunFailure

/-- A failure with its own cause behind it, where it has one. -/
def withCause (failure : Failure) : String :=
  match failure with
  | .spawn _ fault => failure.message ++ ": " ++ fault.message
  | _ => failure.message

/-- The wording of what made a run fail. -/
def message : RunFailure → String
  | building chart path cause =>
      "building `" ++ chart.id ++ "` chart for " ++ path ++ ": " ++ withCause cause
  | drawing cause => withCause cause
  | opening path fault => "opening " ++ path ++ ": " ++ fault.message
  | creating path fault => "creating " ++ path ++ ": " ++ fault.message
  | reading fault => fault.message

/-- The status that the renderer left. -/
def code : RunFailure → Option Int
  | building _ _ cause | drawing cause => cause.exitCode
  | _ => none

/-- The exit status for a failure: the renderer's own if it is one that tells of a
failure. -/
def exitStatus (failure : RunFailure) : Nat :=
  match failure.code with
  | some status => if 0 < status ∧ status ≤ 255 then status.toNat else 1
  | none => 1

end RunFailure

/-- What a run leaves behind. -/
structure Outcome where
  verdict : Except RunFailure Unit
  transcript : Transcript
  store : FileStore

/-- Builds a chart, then prints or executes its command. -/
def draw (renderer : Renderer) (chart : Chart) (mode : RunMode) (job : ChartJob) :
    Transcript → Except RunFailure Unit × Transcript := fun transcript =>
  match (job.build chart renderer .standard).perform transcript with
  | (.error failure, after) => (.error (.building chart job.path failure), after)
  | (.ok command, after) =>
      let (drawn, last) := (command.run mode renderer).perform after
      (drawn.mapError .drawing, last)

/-- What a path reads as. -/
def readFile (store : FileStore) (path : String) : Except RunFailure (List UInt8) :=
  match store.access path with
  | .error fault => .error (.opening path fault)
  | .ok location =>
      (store.contentAt location).mapError fun fault => .reading (.system fault)

/-- Filters the dump at a path into an output that was made before. -/
def filterInto (store : FileStore) (blacklist : Blacklist) (dump : String)
    (location : Location) : Except RunFailure Nat × FileStore :=
  match readFile store dump with
  | .error failure => (.error failure, store)
  | .ok content =>
      let filtered := Dump.filter blacklist content
      (filtered.outcome.mapError .reading, store.write location filtered.written)

/-- A run that ended without the renderer. -/
def finished (store : FileStore) (verdict : Except RunFailure Unit) (events : List Event) :
    Outcome where
  verdict
  transcript := { Transcript.empty with events }
  store

/-- Filters a dump with the ranges of a blacklist. -/
def filterDump (store : FileStore) (dump blacklist output : String) : Outcome :=
  match readFile store blacklist with
  | .error failure => finished store (.error failure) []
  | .ok content =>
      let reading := Blacklist.read content
      match reading.outcome with
      | .error fault => finished store (.error (.reading fault)) reading.warnings
      | .ok ranges =>
          match store.create output with
          | .error fault => finished store (.error (.creating output fault)) reading.warnings
          | .ok (location, created) =>
              match filterInto created ranges dump location with
              | (.error failure, after) =>
                  finished after (.error failure) reading.warnings
              | (.ok rows, after) =>
                  finished after (.ok ())
                    (reading.warnings ++ [.dumpFiltered rows ranges.length])

/-- Does what a request asks for. -/
def Request.run (request : Request) (host : Host) : Outcome :=
  match request.work with
  | .draw chart mode job =>
      let (verdict, transcript) :=
        draw (host.renderer request.program) chart mode job .empty
      { verdict, transcript, store := host.store }
  | .filter dump blacklist output => filterDump host.store dump blacklist output

/-- What the program leaves when it ends. -/
structure ProgramResult where
  exitStatus : Nat
  printed : List UInt8
  /-- The complaint on the standard error output. -/
  complaint : Option String
  launches : List Invocation
  store : FileStore

/-- What is left by a command line that could not be read, or asked for help. -/
def ProgramResult.ofUsage (error : UsageError) (store : FileStore) : ProgramResult where
  exitStatus := error.exitStatus
  printed := if error.isAnswer then Text.Utf8.encode (error.message.toList ++ ['\n']) else []
  complaint :=
    match error with
    | .help _ | .version | .nothingGiven => none
    | _ => some error.complaint
  launches := []
  store

/-- What is left by a run. -/
def ProgramResult.ofOutcome (outcome : Outcome) : ProgramResult where
  exitStatus :=
    match outcome.verdict with
    | .ok () => 0
    | .error failure => failure.exitStatus
  printed := outcome.transcript.printed
  complaint :=
    match outcome.verdict with
    | .ok () => none
    | .error failure => some ("error: " ++ failure.message)
  launches := outcome.transcript.launches
  store := outcome.store

/-- Reads a command line and does what it asks for. -/
def run (host : Host) (environment : Option String) (words : List String) : ProgramResult :=
  match Request.read host.store environment words with
  | .error error => .ofUsage error host.store
  | .ok request => .ofOutcome (request.run host)

end MainsCharts.CommandLine
