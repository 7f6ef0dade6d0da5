import MainsCharts.Calendar
import MainsCharts.Failure
import MainsCharts.Numeral.Integer
import MainsCharts.Numeral.Literal
import MainsCharts.Text.Ends
import MainsCharts.Text.Lines

/-!
# Reports of the renderer

A report is read line by line, white space around a line removed, up to the first
line that is blank.  What follows that line is not looked at.

A period is the time from a start to an end, in seconds since the epoch.  The
renderer reports the period that it resolves two time specifications to, one line
for the start and one for the end; the last line that has a number which fits
counts.

The bounds of the values are the least and the greatest value that are drawn, each
known or not.  The renderer reports them on lines that start with a label; the last
line with a finite number counts, and a line with anything else behind the label is
passed over.
-/

namespace MainsCharts

set_option autoImplicit false

open Numeral Text

/-! ## Lines -/

/-- The lines of a list up to the first blank one, trimmed. -/
def linesBeforeBlank : List (Option (List Char)) → Except StreamFault (List (List Char))
  | [] => .ok []
  | none :: _ => .error .invalidText
  | some line :: rest =>
      let inner := trim line
      if inner.isEmpty then .ok []
      else do
        let others ← linesBeforeBlank rest
        return inner :: others

/-- The lines of a report. -/
def reportLines (report : List UInt8) : Except Failure (List (List Char)) :=
  (linesBeforeBlank (lines report)).mapError .stream

/-! ## Periods -/

/-- The time from `start` to `stop`. -/
structure Period where
  start : Int
  stop : Int
  deriving DecidableEq

namespace Period

/-- The seconds of a period, none when it ends before it starts. -/
def length (period : Period) : Nat :=
  (period.stop - period.start).toNat

/-- A period as two moments. -/
def text (period : Period) : String :=
  Calendar.momentText period.start ++ " .. " ++ Calendar.momentText period.stop

/-- The number that a line gives for a field. -/
def fieldValue? (field : PeriodField) (line : List Char) : Option Nat := do
  let rest ← after? (field.label ++ " = ").toList line
  digitsUpTo? greatestSigned (rest.takeWhile Char.isDigit)

/-- The number that the last of several lines gives for a field. -/
def lastValue? (field : PeriodField) (lines : List (List Char)) : Option Nat :=
  lines.reverse.findSome? (fieldValue? field)

/-- The period that the lines of a report give. -/
def ofLines (lines : List (List Char)) : Except ReportFault Period :=
  match lastValue? .start lines, lastValue? .stop lines with
  | none, _ => .error (.fieldMissing .start)
  | some _, none => .error (.fieldMissing .stop)
  | some start, some stop =>
      if stop < start then .error (.periodInverted start stop) else .ok ⟨start, stop⟩

/-- The period of a report. -/
def ofReport (report : List UInt8) : Except Failure Period := do
  (ofLines (← reportLines report)).mapError .detection

end Period

/-! ## Bounds of the values -/

/-- The least and the greatest value. -/
structure ValueBounds where
  least : Option Float
  greatest : Option Float

namespace ValueBounds

/-- Bounds of which nothing is known. -/
def unknown : ValueBounds := ⟨none, none⟩

/-- Whether nothing is known of the bounds. -/
def isUnknown (bounds : ValueBounds) : Bool :=
  bounds.least.isNone && bounds.greatest.isNone

/-- The finite number that a line gives behind a label. -/
def labelled? (label : String) (line : List Char) : Option Float := do
  let rest ← after? (label.toList ++ [':']) line
  let literal ← Literal.read? isDecimalMark (trim rest)
  if literal.toFloat.isFinite then some literal.toFloat else none

/-- The number that the last of several lines gives behind a label. -/
def lastLabelled? (label : String) (lines : List (List Char)) : Option Float :=
  lines.reverse.findSome? (labelled? label)

/-- The label of the least value in a report. -/
def leastLabel : String := "MIN"

/-- The label of the greatest value in a report. -/
def greatestLabel : String := "MAX"

/-- The bounds that the lines of a report give. -/
def ofLines (lines : List (List Char)) : Except ReportFault ValueBounds :=
  let bounds : ValueBounds :=
    ⟨lastLabelled? leastLabel lines, lastLabelled? greatestLabel lines⟩
  match bounds.least, bounds.greatest with
  | some least, some greatest =>
      if greatest ≤ least then .error (.boundsInverted least greatest) else .ok bounds
  | _, _ => .ok bounds

/-- The bounds of a report. -/
def ofReport (report : List UInt8) : Except Failure ValueBounds := do
  (ofLines (← reportLines report)).mapError .detection

end ValueBounds

end MainsCharts
