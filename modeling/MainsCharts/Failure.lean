import MainsCharts.Expression.Operator
import MainsCharts.Numeral.Shortest
import MainsCharts.Numeral.FixedPoint
import MainsCharts.Text.Quoting

/-!
# Failures

What can go wrong while a chart is built and drawn, as causes.  A misuse is found
before anything is run; a report fault lies in what the renderer printed; the
remaining failures are those of the renderer itself, of launching it, and of
reading a stream.  The wording of each cause is a function of it.
-/

namespace MainsCharts

set_option autoImplicit false

open Numeral Text

/-- What the operating system refuses. -/
inductive SystemFault where
  | notFound
  | notPermitted
  | notDirectory
  | isDirectory
  | nameTooLong
  | argumentsTooLong
  /-- A null character in a path. -/
  | nullByte
  /-- A null character in a program name or an argument. -/
  | nullInCommand
  deriving DecidableEq

/-- The wording of a refusal, with its number where it has one. -/
def SystemFault.message : SystemFault → String
  | .notFound => "No such file or directory (os error 2)"
  | .notPermitted => "Permission denied (os error 13)"
  | .notDirectory => "Not a directory (os error 20)"
  | .isDirectory => "Is a directory (os error 21)"
  | .nameTooLong => "File name too long (os error 36)"
  | .argumentsTooLong => "Argument list too long (os error 7)"
  | .nullByte => "file name contained an unexpected NUL byte"
  | .nullInCommand => "nul byte found in provided data"

/-- What makes an argument, an expression or a plan unusable. -/
inductive Misuse where
  | trendPercentage (text : String)
  | trend (text : String)
  | notAssociative (operator : Operator)
  | emptyChain (operator : Operator)
  | emptyAverage
  | color (text : String)
  | errorPercentage (value : Float)
  | limitsCrossed (lower upper : Float)
  | windowKind (chart : String) (overlay : Bool)
  | overlayWindowMissing
  | overlayEmpty
  | overlayTooLong (depth width : Nat)
  | trendEmpty (period : Nat)
  | seriesRepeated (name : String)
  | noRange (lower upper : Float)
  | source (path : String) (fault : SystemFault)
  | sourceNotRegular (path : String)

/-- The wording of a misuse. -/
def Misuse.message : Misuse → String
  | .trendPercentage text =>
      "trend percentage must be a non-negative number, got " ++ quoted text
  | .trend text => "trend must be `auto`, `<seconds>` or `<percent>%`, got " ++ quoted text
  | .notAssociative operator =>
      "`" ++ operator.token ++ "` is not associative and cannot be chained"
  | .emptyChain operator => "`" ++ operator.token ++ "` chain needs at least one operand"
  | .emptyAverage => "average needs at least one operand"
  | .color text => "expected #RRGGBB or #RRGGBBAA color, got " ++ quoted text
  | .errorPercentage value =>
      "error percentage must be in [0, 50), got " ++ shortestText value
  | .limitsCrossed lower upper =>
      "lower limit " ++ shortestText lower ++ " must be below upper limit " ++ shortestText upper
  | .windowKind chart overlay =>
      "chart `" ++ chart ++ "` needs " ++ (if overlay then "an overlay" else "a floating") ++
        " window"
  | .overlayWindowMissing => "overlay chart needs --width/--depth window"
  | .overlayEmpty => "overlay width and depth must be positive"
  | .overlayTooLong depth width =>
      "overlay of " ++ Nat.repr depth ++ " x " ++ Nat.repr width ++ " s is out of range"
  | .trendEmpty period =>
      "trend window resolves to 0 seconds for a " ++ Nat.repr period ++ " s period"
  | .seriesRepeated name => "series `" ++ name ++ "` is declared more than once"
  | .noRange lower upper =>
      "axis limits " ++ limitText lower ++ " .. " ++ limitText upper ++ " leave no range to draw"
  | .source path fault => path ++ ": " ++ fault.message
  | .sourceNotRegular path => path ++ " is not a regular file"

/-- One of the two fields of a period report. -/
inductive PeriodField where
  | start
  | stop
  deriving DecidableEq

/-- The name of a field in the report. -/
def PeriodField.label : PeriodField → String
  | .start => "graph_start"
  | .stop => "graph_end"

/-- What is wrong with a report. -/
inductive ReportFault where
  | fieldMissing (field : PeriodField)
  | periodInverted (start stop : Nat)
  | boundsInverted (least greatest : Float)

/-- The wording of a report fault. -/
def ReportFault.message : ReportFault → String
  | .fieldMissing field => "`" ++ field.label ++ "` missing from renderer report"
  | .periodInverted start stop =>
      "`graph_end` (" ++ Nat.repr stop ++ ") < `graph_start` (" ++ Nat.repr start ++ ")"
  | .boundsInverted least greatest =>
      "probe reported MAX (" ++ shortestText greatest ++ ") not above MIN (" ++
        shortestText least ++ ")"

/-- Why a stream cannot be read as text. -/
inductive StreamFault where
  | invalidText
  | system (fault : SystemFault)
  deriving DecidableEq

/-- The wording of a stream fault. -/
def StreamFault.message : StreamFault → String
  | .invalidText => "stream did not contain valid UTF-8"
  | .system fault => fault.message

/-- A failure of a build or a drawing.  A renderer that was ended by a signal has no
code. -/
inductive Failure where
  | validation (cause : Misuse)
  | detection (cause : ReportFault)
  | subprocess (program : String) (code : Option Int) (complaint : String)
  | spawn (program : String) (fault : SystemFault)
  | stream (cause : StreamFault)

namespace Failure

/-- How a renderer ended. -/
def endingText : Option Int → String
  | some code => "status " ++ Int.repr code
  | none => "no status (terminated by signal)"

/-- What a renderer complained about, if it did. -/
def complaintText (complaint : String) : String :=
  if complaint.isEmpty then "" else ": " ++ complaint

/-- The wording of a failure. -/
def message : Failure → String
  | validation cause => "invalid argument: " ++ cause.message
  | detection cause => "detection failed: " ++ cause.message
  | subprocess program code complaint =>
      "`" ++ program ++ "` exited with " ++ endingText code ++ complaintText complaint
  | spawn program fault => "failed to launch `" ++ program ++ "`: " ++ fault.message
  | stream cause => cause.message

/-- The status that the renderer left, if it ran and left one. -/
def exitCode : Failure → Option Int
  | subprocess _ code _ => code
  | _ => none

end Failure

end MainsCharts
