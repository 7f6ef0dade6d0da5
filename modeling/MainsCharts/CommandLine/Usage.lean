import MainsCharts.Chart
import MainsCharts.Numeral.Integer
import MainsCharts.Numeral.Literal
import MainsCharts.Text.Lines
import MainsCharts.Text.Terminal

/-!
# The words of the command line

The parameters and switches that the commands take, how they are spelled, and
what can be wrong with a command line.  Help and version are answered in the same
way as faults: they end the reading, with a text of their own.

The text of a fault is meant for a terminal.  What it quotes is highlighted, and so
an escape sequence within a quotation ends with it; the reason why a value is
unusable is not.
-/

namespace MainsCharts.CommandLine

set_option autoImplicit false

open Numeral Text

/-- The name of the program. -/
def programName : String := "rrdgraph"

/-- What the program is called with its version. -/
def versionText : String := programName ++ " 0.1.0"

/-- What the program does, in a sentence. -/
def about : String := "Mains frequency charts rendered with rrdtool"

/-- A parameter, which takes a value. -/
inductive Parameter where
  | renderer
  | database
  | image
  | trend
  | noise
  | lowerLimit
  | upperLimit
  | start
  | stop
  | width
  | depth
  | dump
  | blacklist
  | output
  deriving DecidableEq

/-- A parameter with its value, as messages spell it. -/
def Parameter.usage : Parameter → String
  | renderer => "--rrdtool <RRDTOOL>"
  | database => "<RRD>"
  | image => "<IMAGE>"
  | trend => "--trend <TREND>"
  | noise => "--error <ERROR>"
  | lowerLimit => "--lower-limit <LOWER_LIMIT>"
  | upperLimit => "--upper-limit <UPPER_LIMIT>"
  | start => "--start <START>"
  | stop => "--end <END>"
  | width => "--width <WIDTH>"
  | depth => "--depth <DEPTH>"
  | dump => "<INPUT>"
  | blacklist => "<BLACKLIST>"
  | output => "<OUTPUT>"

/-- Whether a value may start with a minus when it is a number. -/
def Parameter.takesNegative : Parameter → Bool
  | lowerLimit | upperLimit => true
  | _ => false

/-- A switch, which takes no value. -/
inductive Switch where
  /-- Show the command and do not run it. -/
  | printOnly
  /-- Do not probe the bounds of the values. -/
  | skipDetection
  deriving DecidableEq

/-- The name of a switch. -/
def Switch.label : Switch → String
  | printOnly => "cmd"
  | skipDetection => "no-detect"

/-- An option name as it is typed. -/
def typed (name : String) : String :=
  "--" ++ name

/-- What makes the value of a parameter unusable. -/
inductive ValueFault where
  /-- A path is empty. -/
  | absent
  | misuse (cause : Misuse)
  | notNumeric (text : String)
  | noiseOutside (value : Float)
  | number (cause : NumberFault)
  | integer (cause : IntegerFault)
  /-- A number lies outside a range, which is given as it is written. -/
  | outside (value : Int) (range : String)

/-- The wording of a value fault. -/
def ValueFault.message : ValueFault → String
  | absent => ""
  | misuse cause => (Failure.validation cause).message
  | notNumeric text => "`" ++ text ++ "` is not a number"
  | noiseOutside value => "must be at least 0 and below 50, got " ++ shortestText value
  | number cause => cause.message
  | integer cause => cause.message
  | outside value range => Int.repr value ++ " is not in " ++ range

/-- What ends the reading of a command line. -/
inductive UsageError where
  | help (about : String)
  | version
  /-- Nothing was given at all. -/
  | nothingGiven
  | commandMissing
  | commandUnknown (name : String)
  | unexpected (argument : String)
  | valueMissing (parameter : Parameter)
  | repeated (usage : String)
  | unwantedValue (usage value : String)
  | invalidValue (parameter : Parameter) (value : String) (fault : ValueFault)
  /-- Arguments that every command needs are missing. -/
  | incomplete

namespace UsageError

/-- A highlighted text in single quotes. -/
def inQuotes (text : String) : String :=
  "'" ++ Terminal.highlighted text ++ "'"

/-- What stands below the wording of a fault. -/
def advice : String :=
  "\n\nFor more information, try " ++ inQuotes "--help" ++ ".\n"

/-- The wording of what ends the reading, as far as it is on its first line. -/
def wording : UsageError → String
  | help about => about
  | version => versionText
  | nothingGiven => about
  | commandMissing =>
      "error: " ++ inQuotes programName ++ " requires a subcommand but one was not provided"
  | commandUnknown name => "error: unrecognized subcommand " ++ inQuotes name
  | unexpected argument => "error: unexpected argument " ++ inQuotes argument ++ " found"
  | valueMissing parameter =>
      "error: a value is required for " ++ inQuotes parameter.usage ++ " but none was supplied"
  | repeated usage =>
      "error: the argument " ++ inQuotes usage ++ " cannot be used multiple times"
  | unwantedValue usage value =>
      "error: unexpected value " ++ inQuotes value ++ " for " ++ inQuotes usage ++
        " found; no more were expected"
  | invalidValue parameter value fault =>
      "error: invalid value " ++ inQuotes value ++ " for " ++ inQuotes parameter.usage ++
        ": " ++ fault.message
  | incomplete => "error: the following required arguments were not provided:"

/-- The first line of what is shown for what ends the reading. -/
def shownLine (interruption : Terminal.Interruption) (error : UsageError) : String :=
  String.ofList (firstLine (Terminal.shown interruption (error.wording ++ advice).toList))

/-- What is said, as a text. -/
def message (error : UsageError) : String :=
  error.shownLine .ends

/-- What is said on the standard error output. -/
def complaint (error : UsageError) : String :=
  error.shownLine .suspends

/-- Whether the reading ended because it was asked to. -/
def isAnswer : UsageError → Bool
  | help _ | version => true
  | _ => false

/-- The exit status. -/
def exitStatus (error : UsageError) : Nat :=
  if error.isAnswer then 0 else 2

end UsageError

end MainsCharts.CommandLine
