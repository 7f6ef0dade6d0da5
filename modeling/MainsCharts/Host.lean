import MainsCharts.FileStore
import MainsCharts.Session
import MainsCharts.Text.Ends

/-!
# Programs on a host

A host is a store of files with a directory in which programs are looked up by
name.  A program is launched when there is an executable file for it and its
arguments are not too long; it writes to its two outputs and ends with a status or by
a signal.

A renderer on a host is such a program.  When it is asked for its report, what it
writes is taken as text, malformed parts replaced, in a fixed locale.  When it
draws, what it writes to its output is passed on.
-/

namespace MainsCharts

set_option autoImplicit false

open Text

/-- How a program ended. -/
inductive Ending where
  | exited (status : UInt8)
  | signalled
  deriving DecidableEq

/-- The status of an ending, if there is one. -/
def Ending.code : Ending → Option Int
  | exited status => some status.toNat
  | signalled => none

/-- What a program wrote, and how it ended. -/
structure Completion where
  output : List UInt8
  complaint : List UInt8
  ending : Ending
  deriving DecidableEq

/-- The locale that the renderer runs in: a fixed one when its report is read, and
otherwise none that is set. -/
def Purpose.locale : Purpose → String
  | .probe => "C"
  | .execute => ""

/-- Files, the directory in which programs are looked up, and how the executable
among them behaves. -/
structure Host where
  store : FileStore
  programs : String
  behaviour : List Invocation → Invocation → Completion

namespace Host

/-- The path that a program name stands for: a name without strokes is looked up. -/
def programPath (host : Host) (program : String) : String :=
  if '/' ∈ program.toList then program else host.programs ++ "/" ++ program

/-- The greatest number of bytes in an argument. -/
def longestArgument : Nat := 131071

/-- The greatest number of bytes that a launch may take. -/
def largestLaunch : Nat := 2097152

/-- The bytes that a launch takes: those of the path, and those of each word with the
eight of a pointer to it.  Each text has one more byte that ends it. -/
def launchSize (path : String) (words : List String) : Nat :=
  words.foldl (fun size word => size + word.utf8ByteSize + 9) (path.utf8ByteSize + 1)

/-- Whether a program can take its arguments. -/
def fits (path : String) (words : List String) : Bool :=
  words.all (fun word => word.utf8ByteSize ≤ longestArgument) &&
    launchSize path words ≤ largestLaunch

/-- Whether a program can be launched. -/
def checkLaunch (host : Host) (program : String) (arguments : List String) :
    Except SystemFault Unit := do
  if (program :: arguments).any fun word => '\x00' ∈ word.toList then throw .nullInCommand
  if program.isEmpty then throw .notFound
  let path := host.programPath program
  let location ← host.store.access path
  match host.store.node? location with
  | some (.file _ true) =>
      if fits path (program :: arguments) then return () else throw .argumentsTooLong
  | _ => throw .notPermitted

/-- What the program says of its failure. -/
def complaintText (complaint : List UInt8) : String :=
  String.ofList (trim (Utf8.decodeLossy complaint))

/-- The reply of a program that was launched. -/
def replyOf (program : String) (purpose : Purpose) (completion : Completion) : Reply :=
  let failed (complaint : String) : Failure :=
    .subprocess program completion.ending.code complaint
  match purpose with
  | .probe =>
      { outcome :=
          if completion.ending = .exited 0 then
            .ok (String.ofList (Utf8.decodeLossy completion.output))
          else .error (failed (complaintText completion.complaint))
        printed := []
        events := [] }
  | .execute =>
      { outcome := if completion.ending = .exited 0 then .ok "" else .error (failed "")
        printed := completion.output
        events := [.rendererFinished program] }

/-- The renderer of a name on a host. -/
def renderer (host : Host) (program : String) : Renderer where
  program
  answer := fun history invocation =>
    match host.checkLaunch program invocation.arguments with
    | .error fault =>
        { outcome := .error (.spawn program fault), printed := [], events := [] }
    | .ok () => replyOf program invocation.purpose (host.behaviour history invocation)

end Host

/-- Whether a program ran at all for an exchange. -/
def Exchange.wasLaunched (exchange : Exchange) : Bool :=
  match exchange.reply.outcome with
  | .error (.spawn _ _) => false
  | _ => true

/-- The invocations of a transcript that a program ran for. -/
def Transcript.launches (transcript : Transcript) : List Invocation :=
  (transcript.exchanges.filter Exchange.wasLaunched).map Exchange.invocation

/-- The program that is the renderer unless another is named. -/
def defaultProgram : String := "rrdtool"

end MainsCharts
