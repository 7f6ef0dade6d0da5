import MainsCharts.Chart.Drawing

/-!
# The frequency chart

The least, the greatest and the average frequency of the mains over a floating
window.  Values outside the percentiles are clipped as noise and marked; the
trends are those of the clipped series.
-/

namespace MainsCharts.Frequency

set_option autoImplicit false

open Drawing

/-- The data source of the frequency. -/
def source : String := "freq"

/-- The series as they are stored, and the percentiles that clip them. -/
def clipping (context : ChartContext) : List Element :=
  [.stored "r_min" context.path source .minimum none,
    .stored "r_max" context.path source .maximum none,
    .stored "r_avg" context.path source .average none,
    percentile "g_min" "r_min" context.lowerPercentile,
    percentile "g_max" "r_max" context.upperPercentile,
    clipped "f_min" "r_min" (series "g_min") (series "g_max"),
    clipped "f_max" "r_max" (series "g_min") (series "g_max"),
    clipped "f_avg" "r_avg" (series "g_min") (series "g_max")]

/-- The trends of the clipped series. -/
def trends (context : ChartContext) : List Element :=
  Element.trend "t_min" "f_min" context.trendWindow ++
    Element.trend "t_max" "f_max" context.trendWindow ++
    Element.trend "t_avg" "f_avg" context.trendWindow

/-- The scalars of the whole period, and the series that are marked. -/
def markers (context : ChartContext) : List Element :=
  [reduction "g_avg" .seriesAverage "f_avg",
    reduction "g_last" .seriesLast "f_avg",
    reduction "g_stdev" .seriesDeviation "f_avg",
    comparison "e_min" .lessThan "r_min" "g_min",
    comparison "e_max" .greaterThan "r_max" "g_max",
    absence "e_miss" "r_avg",
    boundaries context.period "r_avg",
    .alignLeft,
    .comment "Маркеры:",
    .tick "e_miss" context.palette.missing (some 1.0) (some "  Нет данных"),
    .tick "ztick" context.palette.boundary (some 1.0) none,
    .tick "e_min" context.palette.low (some 0.02) (some "  Возм. ошибки вниз"),
    .tick "e_max" context.palette.high (some (-0.02)) (some "  Возм. ошибки вверх\\n")]

/-- The lines, and the legend below them. -/
def measurements (context : ChartContext) : List Element :=
  [measurementsHeading "Измерения:" context.trendWindow,
    .line 1 "r_min" (context.palette.rawMinimum.withAlpha 0x3F) none ["skipscale"],
    .line 1 "r_max" (context.palette.rawMaximum.withAlpha 0x3F) none ["skipscale"],
    .line 1 "r_avg" (context.palette.rawAverage.withAlpha 0x3F) none ["skipscale"],
    .line 1 "t_min" context.palette.trendMinimum none [],
    .line 1 "t_max" context.palette.trendMaximum none [],
    .line 1 "t_avg" context.palette.trendAverage none [],
    .line 1 "g_min" context.palette.globalMinimum (some "↓Наим.\\t") ["dashes"],
    .line 1 "g_max" context.palette.globalMaximum (some "↓Наиб.\\t") ["dashes"],
    .line 1 "g_avg" context.palette.globalAverage (some "↓Сред.\\t")
      ["dashes", "dash-offset=5"],
    .comment "↓Последний\\t",
    .comment "↓Станд. откл.\\n",
    .report "g_min" "%2.4lf %sHz\\t",
    .report "g_max" "%2.4lf %sHz\\t",
    .report "g_avg" "%2.4lf %sHz\\t",
    .report "g_last" "%2.4lf %sHz\\t",
    .report "g_stdev" "%2.4lf %sHz\\n",
    Element.noiseRemark context.errorPercentage]

/-- The frequency chart. -/
def declare (context : ChartContext) : Drawing where
  title := titleOf "Частота в сети" (bold (Duration.text context.period)) "Hz"
  elements :=
    clipping context ++ trends context ++ markers context ++
      frequencyLimits context.palette ++ measurements context

end MainsCharts.Frequency
