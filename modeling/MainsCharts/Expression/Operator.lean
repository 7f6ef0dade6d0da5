/-!
# Operators

The operators of the renderer's postfix language, and the consolidation functions
of its stored series, each with the token that stands for it.
-/

namespace MainsCharts

set_option autoImplicit false

/-- An operator of the postfix language. -/
inductive Operator where
  | lessThan
  | greaterThan
  | atMost
  | atLeast
  | equal
  | unequal
  | isUnknown
  | ifThenElse
  | add
  | subtract
  | multiply
  | divide
  | modulo
  | minimum
  | maximum
  | minimumKnown
  | maximumKnown
  | limit
  | average
  | pop
  | trend
  | trendKnown
  | percentile
  | percentileKnown
  | seriesAverage
  | seriesMinimum
  | seriesMaximum
  | seriesDeviation
  | seriesLast
  | newDay
  | newWeek
  | newMonth
  | newYear
  | time
  | stepWidth
  | unknown
  deriving DecidableEq

namespace Operator

/-- The token of an operator. -/
def token : Operator → String
  | lessThan => "LT"
  | greaterThan => "GT"
  | atMost => "LE"
  | atLeast => "GE"
  | equal => "EQ"
  | unequal => "NE"
  | isUnknown => "UN"
  | ifThenElse => "IF"
  | add => "+"
  | subtract => "-"
  | multiply => "*"
  | divide => "/"
  | modulo => "%"
  | minimum => "MIN"
  | maximum => "MAX"
  | minimumKnown => "MINNAN"
  | maximumKnown => "MAXNAN"
  | limit => "LIMIT"
  | average => "AVG"
  | pop => "POP"
  | trend => "TREND"
  | trendKnown => "TRENDNAN"
  | percentile => "PERCENT"
  | percentileKnown => "PERCENTNAN"
  | seriesAverage => "AVERAGE"
  | seriesMinimum => "MINIMUM"
  | seriesMaximum => "MAXIMUM"
  | seriesDeviation => "STDEV"
  | seriesLast => "LAST"
  | newDay => "NEWDAY"
  | newWeek => "NEWWEEK"
  | newMonth => "NEWMONTH"
  | newYear => "NEWYEAR"
  | time => "TIME"
  | stepWidth => "STEPWIDTH"
  | unknown => "UNKN"

/-- The binary operators whose operands may be grouped in any way. -/
def isAssociative : Operator → Bool
  | add | multiply | minimum | maximum | minimumKnown | maximumKnown => true
  | _ => false

end Operator

/-- How a stored series condenses its samples. -/
inductive Consolidation where
  | average
  | minimum
  | maximum
  | last
  deriving DecidableEq

/-- The token of a consolidation function. -/
def Consolidation.token : Consolidation → String
  | average => "AVERAGE"
  | minimum => "MIN"
  | maximum => "MAX"
  | last => "LAST"

end MainsCharts
