/-!
# Calendar dates

Seconds since the epoch as a date and a time of day in universal time.  Years
are counted in eras of four hundred years that start on the first of March of
year zero, so that the leap day is the last day of its year and every era has the
same number of days.

Only years from -262143 to 262142 have dates.  A year outside the four digit
range is written with its sign.
-/

namespace MainsCharts.Calendar

set_option autoImplicit false

/-- A day of the proleptic Gregorian calendar. -/
structure Date where
  year : Int
  month : Nat
  day : Nat
  deriving DecidableEq

/-- The seconds of a day. -/
def secondsPerDay : Int := 86400

/-- The days of an era. -/
def daysPerEra : Int := 146097

/-- The days from the first of March of year zero to the epoch. -/
def daysToEpoch : Int := 719468

/-- The date of a day counted from the epoch. -/
def Date.ofDays (days : Int) : Date :=
  let shifted := days + daysToEpoch
  let era := shifted / daysPerEra
  let dayOfEra := (shifted % daysPerEra).toNat
  let yearOfEra :=
    (dayOfEra - dayOfEra / 1460 + dayOfEra / 36524 - dayOfEra / 146096) / 365
  let dayOfYear := dayOfEra - (365 * yearOfEra + yearOfEra / 4 - yearOfEra / 100)
  let monthFromMarch := (5 * dayOfYear + 2) / 153
  let month := if monthFromMarch < 10 then monthFromMarch + 3 else monthFromMarch - 9
  { year := era * 400 + yearOfEra + (if month ≤ 2 then 1 else 0)
    month
    day := dayOfYear - (153 * monthFromMarch + 2) / 5 + 1 }

/-- A number with at least `width` digits. -/
def padded (width value : Nat) : String :=
  let digits := Nat.repr value
  String.ofList (List.replicate (width - digits.length) '0') ++ digits

/-- A year: four digits, or more with a sign when it is outside their range. -/
def yearText (year : Int) : String :=
  if year < 0 then "-" ++ padded 4 year.natAbs
  else if 9999 < year then "+" ++ padded 4 year.natAbs
  else padded 4 year.natAbs

/-- A date: year, month and day. -/
def Date.text (date : Date) : String :=
  yearText date.year ++ "-" ++ padded 2 date.month ++ "-" ++ padded 2 date.day

/-- A time of day, from the seconds since midnight. -/
def timeText (seconds : Nat) : String :=
  padded 2 (seconds / 3600) ++ ":" ++ padded 2 (seconds / 60 % 60) ++ ":" ++
    padded 2 (seconds % 60)

/-- Whether a year has dates. -/
def hasDates (year : Int) : Bool :=
  -262143 ≤ year && year ≤ 262142

/-- A moment in universal time, as a plain number when it has no date. -/
def momentText (seconds : Int) : String :=
  let date := Date.ofDays (seconds / secondsPerDay)
  if hasDates date.year then
    date.text ++ " " ++ timeText (seconds % secondsPerDay).toNat ++ " UTC"
  else Int.repr seconds

end MainsCharts.Calendar
