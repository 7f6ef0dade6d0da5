import MainsCharts.Failure
import MainsCharts.Report

/-!
# Events

What the program reports of its work while it goes on.
-/

namespace MainsCharts

set_option autoImplicit false

open Text

/-- How much an event matters. -/
inductive EventLevel where
  | info
  | warning
  deriving DecidableEq

/-- The name of a level in the log. -/
def EventLevel.label : EventLevel → String
  | .info => "INFO"
  | .warning => "WARN"

/-- Something that happened on the way. -/
inductive Event where
  | periodDetected (period : Period)
  /-- A chart is about to be declared. -/
  | chartChosen (about : String)
  | boundsDetected
  | boundsMissing (chart : String)
  | rendering (program : String) (arguments : Nat)
  | rendererFinished (program : String)
  | blacklistLineSkipped (number : Nat) (line : String)
  | dumpFiltered (rows ranges : Nat)
  deriving DecidableEq

namespace Event

/-- The level of an event. -/
def level : Event → EventLevel
  | boundsMissing _ | blacklistLineSkipped _ _ => .warning
  | _ => .info

/-- The wording of an event. -/
def message : Event → String
  | periodDetected period =>
      "detected period " ++ period.text ++ " (" ++ Nat.repr period.length ++ " s)"
  | chartChosen about => about
  | boundsDetected => "detected value range"
  | boundsMissing chart =>
      "no data to detect the value range of `" ++ chart ++ "`; using auto-scale"
  | rendering program arguments =>
      "rendering with " ++ program ++ " (" ++ Nat.repr arguments ++ " arguments)"
  | rendererFinished program => program ++ " finished"
  | blacklistLineSkipped number line =>
      "blacklist line " ++ Nat.repr number ++ ": expected `<begin>:<end>`, got " ++ quoted line
  | dumpFiltered rows ranges =>
      "blacklisted " ++ Nat.repr rows ++ " lines (" ++ Nat.repr ranges ++ " ranges)"

/-- An event as a line of the log. -/
def text (event : Event) : String :=
  event.level.label ++ " " ++ event.message

end Event

end MainsCharts
