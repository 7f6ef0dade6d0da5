import MainsCharts.Expression.Basic

/-!
# Durations

The lengths of the units that periods are measured in, and durations as the
charts show them: the largest unit first, each unit that is used at most once,
and nothing at all for a duration of zero seconds.

A chart marks the boundaries of the longest calendar period that is not longer
than what it shows, and of hours when it shows less than a day.  The renderer has
an operator for the first sample of each longer period.  For hours there is none;
there the time past the hour is compared with the distance of two samples.
-/

namespace MainsCharts

set_option autoImplicit false

namespace Duration

def minute : Nat := 60

def hour : Nat := minute * 60

def day : Nat := hour * 24

def week : Nat := day * 7

/-- A month counts as thirty-one days. -/
def month : Nat := day * 31

/-- A year counts as three hundred and sixty-five days. -/
def year : Nat := day * 365

/-- The units of a written duration, the longest first: length and abbreviation. -/
def units : List (Nat × String) :=
  [(year, "г."), (day, "д."), (hour, "ч."), (minute, "м."), (1, "с.")]

/-- A duration taken apart along a list of units, the counts that are zero left out. -/
def split : List (Nat × String) → Nat → List (Nat × String)
  | [], _ => []
  | (length, name) :: rest, seconds =>
      let count := seconds / length
      let parts := split rest (seconds % length)
      if count = 0 then parts else (count, name) :: parts

/-- A duration in words, such as `1д. 1ч. 1м. 1с.`. -/
def text (seconds : Nat) : String :=
  " ".intercalate ((split units seconds).map fun (count, name) => Nat.repr count ++ name)

end Duration

/-! ## Boundaries of calendar periods -/

/-- How far apart the marked boundaries are. -/
inductive Granularity where
  | year
  | month
  | week
  | day
  | hour
  deriving DecidableEq

namespace Granularity

/-- The granularity for a chart of some number of seconds. -/
def ofDuration (seconds : Nat) : Granularity :=
  if Duration.year ≤ seconds then year
  else if Duration.month ≤ seconds then month
  else if Duration.week ≤ seconds then week
  else if Duration.day ≤ seconds then day
  else hour

/-- The expression that is one on the first sample of each period. -/
def boundary : Granularity → Expression
  | year => .operator .newYear
  | month => .operator .newMonth
  | week => .operator .newWeek
  | day => .operator .newDay
  | hour =>
      .sequence
        [.operator .time, .ofWord Duration.hour, .operator .modulo, .operator .stepWidth,
          .operator .lessThan]

/-- The boundary expression as a derived series needs it: it has to mention a series,
whose value is then thrown away. -/
def tick (granularity : Granularity) (dummy : Expression) : Expression :=
  .sequence [granularity.boundary, dummy, .operator .pop]

end Granularity

end MainsCharts
