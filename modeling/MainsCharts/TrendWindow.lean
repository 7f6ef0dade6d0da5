import MainsCharts.Failure
import MainsCharts.Numeral.Integer
import MainsCharts.Numeral.Literal
import MainsCharts.Numeral.Rounding
import MainsCharts.Text.Ends

/-!
# Trend windows

The trend of a series is its average over a moving window.  The window is a
number of seconds, a percentage of the period that is shown, or left to the
program, which takes a sixtieth of the period.

A window is written as `auto` in any case, as a number with a percent sign, or as
a number of seconds; white space around it, and before the percent sign, does not
matter.
-/

namespace MainsCharts

set_option autoImplicit false

open Numeral Text

/-- How long the window of a trend is. -/
inductive TrendWindow where
  | auto
  | percent (share : Float)
  | seconds (count : Nat)

namespace TrendWindow

/-- A percentage: a number that is finite and not negative. -/
def readPercentage? (text : List Char) : Option Float :=
  match readNumber (trim text) with
  | .ok share => if share.isFinite ∧ 0.0 ≤ share then some share else none
  | .error _ => none

/-- The text before a percent sign at its end. -/
def beforePercentSign? (text : List Char) : Option (List Char) :=
  match text.reverse with
  | '%' :: rest => some rest.reverse
  | _ => none

/-- A window read from a text. -/
def read (text : String) : Except Misuse TrendWindow :=
  let inner := trim text.toList
  if inner.map Char.toLower = ['a', 'u', 't', 'o'] then .ok .auto
  else
    match beforePercentSign? inner with
    | some number =>
        match readPercentage? number with
        | some share => .ok (.percent share)
        | none => .error (.trendPercentage text)
    | none =>
        match readUnsigned greatestWord inner with
        | .ok count => .ok (.seconds count)
        | .error _ => .error (.trend text)

/-- The seconds of a window for a period of some number of seconds. -/
def resolve (window : TrendWindow) (period : Nat) : Nat :=
  match window with
  | auto => period / 60
  | percent share => floorToWord (Float.ofNat period * share / 100.0)
  | seconds count => count

end TrendWindow

end MainsCharts
