import MainsCharts.Event
import MainsCharts.Text.Utf8

/-!
# Sessions with the renderer

The renderer is another program.  What is known of it is its name and how it
answers an invocation, which may depend on what it was asked before.  A session
is a computation that may invoke the renderer, report events and print; it fails
with a failure or yields a value, and in both cases leaves the transcript of what
it did.
-/

namespace MainsCharts

set_option autoImplicit false

open Text

/-- What the renderer is invoked for: to learn from its report, or to draw. -/
inductive Purpose where
  | probe
  | execute
  deriving DecidableEq

/-- An invocation of the renderer, without its name. -/
structure Invocation where
  purpose : Purpose
  arguments : List String
  deriving DecidableEq

/-- What comes of an invocation: a report or a failure, what reached the standard
output, and the events on the way. -/
structure Reply where
  outcome : Except Failure String
  printed : List UInt8
  events : List Event

/-- The renderer, as its invocations show it. -/
structure Renderer where
  program : String
  answer : List Invocation → Invocation → Reply

/-- An invocation and what came of it. -/
structure Exchange where
  invocation : Invocation
  reply : Reply

/-- What a session has done so far. -/
structure Transcript where
  exchanges : List Exchange
  events : List Event
  printed : List UInt8

namespace Transcript

/-- Nothing done yet. -/
def empty : Transcript := ⟨[], [], []⟩

/-- The invocations of a transcript. -/
def calls (transcript : Transcript) : List Invocation :=
  transcript.exchanges.map Exchange.invocation

/-- A transcript with a further exchange. -/
def answered (transcript : Transcript) (invocation : Invocation) (reply : Reply) :
    Transcript where
  exchanges := transcript.exchanges ++ [⟨invocation, reply⟩]
  events := transcript.events ++ reply.events
  printed := transcript.printed ++ reply.printed

end Transcript

/-- A computation that uses the renderer. -/
abbrev Session := ExceptT Failure (StateM Transcript)

namespace Session

/-- A session from what it yields and how it changes the transcript. -/
def step {α : Type} (next : Transcript → Except Failure α × Transcript) : Session α :=
  ExceptT.mk next

/-- What a session yields, and its transcript. -/
def perform {α : Type} (session : Session α) (transcript : Transcript) :
    Except Failure α × Transcript :=
  (ExceptT.run session).run transcript

/-- Reports an event. -/
def note (event : Event) : Session Unit :=
  step fun transcript =>
    (.ok (), { transcript with events := transcript.events ++ [event] })

/-- Prints a line. -/
def printLine (line : String) : Session Unit :=
  step fun transcript =>
    (.ok (), { transcript with
      printed := transcript.printed ++ Utf8.encode (line.toList ++ ['\n']) })

/-- Fails when a check finds a misuse. -/
def check {α : Type} (verdict : Except Misuse α) : Session α :=
  step fun transcript => (verdict.mapError .validation, transcript)

/-- Fails when a reading fails. -/
def accept {α : Type} (reading : Except Failure α) : Session α :=
  step fun transcript => (reading, transcript)

end Session

/-- Invokes the renderer for its report. -/
def Renderer.ask (renderer : Renderer) (purpose : Purpose) (arguments : List String) :
    Session String :=
  Session.step fun transcript =>
    let invocation : Invocation := ⟨purpose, arguments⟩
    let reply := renderer.answer transcript.calls invocation
    (reply.outcome, transcript.answered invocation reply)

end MainsCharts
