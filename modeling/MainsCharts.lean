import MainsCharts.Axis.Plan
import MainsCharts.Blacklist
import MainsCharts.Build
import MainsCharts.Calendar
import MainsCharts.Chart
import MainsCharts.Chart.Description
import MainsCharts.Chart.Drawing
import MainsCharts.Chart.Frequency
import MainsCharts.Chart.Overlay
import MainsCharts.Chart.Rate
import MainsCharts.Chart.Spread
import MainsCharts.Color
import MainsCharts.Command
import MainsCharts.CommandLine.Request
import MainsCharts.CommandLine.Run
import MainsCharts.CommandLine.Settings
import MainsCharts.CommandLine.Usage
import MainsCharts.Dump
import MainsCharts.Duration
import MainsCharts.Element
import MainsCharts.Event
import MainsCharts.Expression.Basic
import MainsCharts.Expression.Builder
import MainsCharts.Expression.Operator
import MainsCharts.Failure
import MainsCharts.FileStore
import MainsCharts.Host
import MainsCharts.Main
import MainsCharts.Numeral.FixedPoint
import MainsCharts.Numeral.Integer
import MainsCharts.Numeral.Literal
import MainsCharts.Numeral.Rounding
import MainsCharts.Numeral.Shortest
import MainsCharts.Palette
import MainsCharts.Probe
import MainsCharts.Proofs.Axis.Enclosure
import MainsCharts.Proofs.Axis.Ends
import MainsCharts.Proofs.Axis.Limit
import MainsCharts.Proofs.Axis.Margin
import MainsCharts.Proofs.Axis.Numeral
import MainsCharts.Proofs.Axis.Overriding
import MainsCharts.Proofs.Axis.Plan
import MainsCharts.Proofs.Blacklist.Lines
import MainsCharts.Proofs.Blacklist.Ranges
import MainsCharts.Proofs.Blacklist.Writing
import MainsCharts.Proofs.Build.Axis
import MainsCharts.Proofs.Build.Checks
import MainsCharts.Proofs.Build.Confinement
import MainsCharts.Proofs.Build.Course
import MainsCharts.Proofs.Build.Fetching
import MainsCharts.Proofs.Build.Limits
import MainsCharts.Proofs.Build.Outcome
import MainsCharts.Proofs.Build.Overlay
import MainsCharts.Proofs.Build.Printing
import MainsCharts.Proofs.Build.Silence
import MainsCharts.Proofs.Build.Trends
import MainsCharts.Proofs.Chart.Balance
import MainsCharts.Proofs.Chart.Declaration
import MainsCharts.Proofs.Chart.Names
import MainsCharts.Proofs.Chart.Overlay
import MainsCharts.Proofs.Chart.Scope
import MainsCharts.Proofs.Chart.Slices
import MainsCharts.Proofs.Chart.Stretches
import MainsCharts.Proofs.Chart.Trends
import MainsCharts.Proofs.Color.Course
import MainsCharts.Proofs.Color.Gradient
import MainsCharts.Proofs.Color.Reading
import MainsCharts.Proofs.CommandLine.Filtering
import MainsCharts.Proofs.CommandLine.Status
import MainsCharts.Proofs.CommandLine.Unread
import MainsCharts.Proofs.Dump.Blanking
import MainsCharts.Proofs.Dump.Composition
import MainsCharts.Proofs.Dump.Copying
import MainsCharts.Proofs.Duration.Reading
import MainsCharts.Proofs.Element.Drawn
import MainsCharts.Proofs.Element.Fields
import MainsCharts.Proofs.Element.Reading
import MainsCharts.Proofs.Element.Scope
import MainsCharts.Proofs.Expression.Compilation
import MainsCharts.Proofs.Expression.Folding
import MainsCharts.Proofs.Expression.Leaves
import MainsCharts.Proofs.Expression.Machine
import MainsCharts.Proofs.Expression.Operators
import MainsCharts.Proofs.Expression.Reading
import MainsCharts.Proofs.FileStore.Creation
import MainsCharts.Proofs.Numeral.Arithmetic
import MainsCharts.Proofs.Numeral.Denotation
import MainsCharts.Proofs.Numeral.Digits
import MainsCharts.Proofs.Numeral.Exact
import MainsCharts.Proofs.Numeral.Extended
import MainsCharts.Proofs.Numeral.Grammar
import MainsCharts.Proofs.Numeral.Nearest
import MainsCharts.Proofs.Numeral.Ordering
import MainsCharts.Proofs.Numeral.Packing
import MainsCharts.Proofs.Numeral.Precision
import MainsCharts.Proofs.Numeral.Rounded
import MainsCharts.Proofs.Numeral.Saturation
import MainsCharts.Proofs.Numeral.Scientific
import MainsCharts.Proofs.Numeral.Shape
import MainsCharts.Proofs.Numeral.Storing
import MainsCharts.Proofs.Numeral.Value
import MainsCharts.Proofs.Numeral.Whole
import MainsCharts.Proofs.Probe.Answers
import MainsCharts.Proofs.Report.Bounds
import MainsCharts.Proofs.Report.Framing
import MainsCharts.Proofs.Report.Period
import MainsCharts.Proofs.Report.Reading
import MainsCharts.Proofs.SeriesNames.Repetition
import MainsCharts.Proofs.Session.Answers
import MainsCharts.Proofs.Session.Trace
import MainsCharts.Proofs.Text.Casing
import MainsCharts.Proofs.Text.Fields
import MainsCharts.Proofs.Text.Lines
import MainsCharts.Proofs.Text.Pieces
import MainsCharts.Proofs.Text.Search
import MainsCharts.Proofs.Text.Shell
import MainsCharts.Proofs.Text.Trimming
import MainsCharts.Proofs.Text.Utf8
import MainsCharts.Proofs.TrendWindow.Growth
import MainsCharts.Proofs.TrendWindow.Language
import MainsCharts.Report
import MainsCharts.SeriesNames
import MainsCharts.Session
import MainsCharts.Text.Ends
import MainsCharts.Text.Lines
import MainsCharts.Text.Printable
import MainsCharts.Text.Quoting
import MainsCharts.Text.Terminal
import MainsCharts.Text.Utf8
import MainsCharts.TrendWindow
import MainsCharts.Window
