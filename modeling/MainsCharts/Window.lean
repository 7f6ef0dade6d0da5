import MainsCharts.Failure
import MainsCharts.Numeral.Integer

/-!
# Time windows

A chart shows one stretch of time, given by two time specifications, or an
overlay of several stretches of equal width, the most recent of which ends at a
time specification.  Offsets within an overlay are signed numbers of seconds, so
the whole overlay has to fit one.
-/

namespace MainsCharts

set_option autoImplicit false

open Numeral

/-- What a chart shows. -/
inductive Window where
  | floating (start stop : String)
  | overlay (stop : String) (width depth : Nat)
  deriving DecidableEq

namespace Window

/-- Whether a window is an overlay. -/
def isOverlay : Window → Bool
  | floating _ _ => false
  | overlay _ _ _ => true

/-- The time specification that lies some number of seconds before another. -/
def earlier (moment : String) (seconds : Nat) : String :=
  moment ++ "-" ++ Nat.repr seconds

/-- The arguments for a window.  Of an overlay they give the most recent stretch. -/
def timeFlags : Window → List String
  | floating start stop => ["--start", start, "--end", stop]
  | overlay stop width _ => ["--start", earlier stop width, "--end", stop]

end Window

/-- The seconds that an overlay covers. -/
def overlaySpan (width depth : Nat) : Except Misuse Nat :=
  if width = 0 ∨ depth = 0 then .error .overlayEmpty
  else if width * depth ≤ greatestSigned then .ok (width * depth)
  else .error (.overlayTooLong depth width)

end MainsCharts
