import MainsCharts.Color
import MainsCharts.Expression.Builder
import MainsCharts.Numeral.Integer
import MainsCharts.Numeral.Shortest
import MainsCharts.Text.Quoting

/-!
# Elements of a drawing

A drawing is a list of elements: series that are read, derived or reduced to a
scalar, what is drawn of them, and the text of the legend.  Each element is
written as one argument, its fields separated by colons.

Free text has its colons escaped; the markers for a tabulation and a line end,
which are two characters each, belong to the text.  A format is passed on as it
is.
-/

namespace MainsCharts

set_option autoImplicit false

open Numeral Text

/-- The time span that a series is read over, when it has one of its own. -/
structure FetchSpan where
  start : String
  stop : String
  deriving DecidableEq

/-- An element of a drawing. -/
inductive Element where
  /-- A series read from a data source of a database file. -/
  | stored (name path source : String) (consolidation : Consolidation)
      (span : Option FetchSpan)
  /-- A series computed from others, sample by sample. -/
  | derived (name : String) (value : Expression)
  /-- A number computed from a series. -/
  | scalar (name : String) (value : Expression)
  /-- A series moved in time. -/
  | shift (name : String) (seconds : Int)
  | comment (text : String)
  | alignLeft
  /-- Marks where a series is not zero. -/
  | tick (name : String) (color : Color) (height : Option Float) (legend : Option String)
  | line (width : UInt8) (name : String) (color : Color) (legend : Option String)
      (flags : List String)
  /-- A horizontal line. -/
  | rule (value : Float) (color : Color) (legend : Option String) (flags : List String)
  /-- A scalar in the legend. -/
  | report (name format : String)
  /-- A scalar in the renderer's report, after a label. -/
  | print (name label : String)

namespace Element

/-- The fields that follow the color of a tick. -/
def tickFields (height : Option Float) (legend : Option String) : String :=
  match height, legend with
  | none, none => ""
  | some value, none => ":" ++ shortestText value
  | none, some text => "::" ++ field text
  | some value, some text => ":" ++ shortestText value ++ ":" ++ field text

/-- Flags, each in a field of its own. -/
def flagFields (flags : List String) : String :=
  String.join (flags.map fun flag => ":" ++ flag)

/-- The fields that follow the color of a line.  Flags come after the legend, which
is empty when only they are given. -/
def lineFields (legend : Option String) (flags : List String) : String :=
  match legend with
  | some text => ":" ++ field text ++ flagFields flags
  | none => if flags.isEmpty then "" else ":" ++ flagFields flags

/-- The fields of a time span. -/
def spanFields : Option FetchSpan → String
  | none => ""
  | some span => ":start=" ++ span.start ++ ":end=" ++ span.stop

/-- An element as it is written. -/
def text : Element → String
  | stored name path source consolidation span =>
      "DEF:" ++ name ++ "=" ++ field path ++ ":" ++ source ++ ":" ++ consolidation.token ++
        spanFields span
  | derived name value => "CDEF:" ++ name ++ "=" ++ value.text
  | scalar name value => "VDEF:" ++ name ++ "=" ++ value.text
  | shift name seconds => "SHIFT:" ++ name ++ ":" ++ Int.repr seconds
  | comment content => "COMMENT:" ++ field content
  | alignLeft => "TEXTALIGN:left"
  | tick name color height legend => "TICK:" ++ name ++ color.text ++ tickFields height legend
  | line width name color legend flags =>
      "LINE" ++ Nat.repr width.toNat ++ ":" ++ name ++ color.text ++ lineFields legend flags
  | rule value color legend flags =>
      "HRULE:" ++ shortestText value ++ color.text ++ lineFields legend flags
  | report name format => "GPRINT:" ++ name ++ ":" ++ format
  | print name label => "PRINT:" ++ name ++ ":" ++ field label ++ "\\:%lf"

/-- A heading in the legend, with further text behind it. -/
def heading (title : String) (further : Option String) : Element :=
  .comment ("<b># " ++ title ++ "</b>" ++ (further.elim "" (" " ++ ·)) ++ "\\n")

/-- The remark on the samples that are left out as noise. -/
def noiseRemark (percentage : Float) : Element :=
  .comment
    (shortestText percentage ++
      "% наименьших и наибольших значений считаются ошибками и шумом, " ++
      "они отбрасываются и не учитываются.\\n")

/-- The trend of a series: its average over a moving window, moved back by half the
window, so that each value stands in the middle of the samples it is made of.  The
opposite of the signed window is that of an integer: a window of `2 ^ 63` seconds, the
only one whose opposite does not fit sixty-four bits, is not given an overflow. -/
def trend (name series : String) (window : Nat) : List Element :=
  [.derived name (.binary .trendKnown (.series series) (.ofWord window)),
    .shift name (Int.fdiv (-asSigned window) 2)]

end Element

end MainsCharts
