import MainsCharts.Chart.Drawing

/-!
# The rate chart

How fast the frequency changes, over a floating window.  The rate is never
negative, so values are clipped at zero from below.  The least rate is not
archived, and its series is that of the greatest.
-/

namespace MainsCharts.Rate

set_option autoImplicit false

open Drawing

/-- The data source of the rate. -/
def source : String := "freq_var"

/-- The series as they are stored, and clipped. -/
def clipping (context : ChartContext) : List Element :=
  [.stored "r_min" context.path source .maximum none,
    .stored "r_max" context.path source .maximum none,
    .stored "r_avg" context.path source .average none,
    percentile "g_max" "r_max" context.upperPercentile,
    clipped "f_min" "r_min" (number 0.0) (series "g_max"),
    clipped "f_max" "r_max" (number 0.0) (series "g_max"),
    clipped "f_avg" "r_avg" (number 0.0) (series "g_max"),
    reduction "g_avg" .seriesAverage "f_avg"]

/-- The trends of the clipped series. -/
def trends (context : ChartContext) : List Element :=
  Element.trend "t_min" "f_min" context.trendWindow ++
    Element.trend "t_max" "f_max" context.trendWindow ++
    Element.trend "t_avg" "f_avg" context.trendWindow

/-- The last values, and the series that are marked. -/
def markers (context : ChartContext) : List Element :=
  [reduction "g_last_min" .seriesLast "f_min",
    reduction "g_last_max" .seriesLast "f_max",
    reduction "g_last_avg" .seriesLast "f_avg",
    comparison "e_max" .greaterThan "r_max" "g_max",
    absence "e_miss" "r_avg",
    boundaries context.period "r_avg",
    .alignLeft,
    .comment "Маркеры:",
    .tick "e_miss" context.palette.missing (some 1.0) (some "  Нет данных"),
    .tick "ztick" context.palette.boundary (some 1.0) none,
    .tick "e_max" context.palette.high (some (-0.02)) (some "  Возм. ошибки\\n"),
    .rule 0.0 context.palette.nominal none ["dashes"]]

/-- The lines, and the legend below them. -/
def measurements (context : ChartContext) : List Element :=
  [measurementsHeading "Измерения:" context.trendWindow,
    .line 1 "r_min" (context.palette.rawMinimum.withAlpha 0x1F) none ["skipscale"],
    .line 1 "r_max" (context.palette.rawMaximum.withAlpha 0x1F) none ["skipscale"],
    .line 1 "r_avg" (context.palette.rawAverage.withAlpha 0x1F) none ["skipscale"],
    .line 1 "t_min" context.palette.trendMinimum none [],
    .line 1 "t_max" context.palette.trendMaximum none [],
    .line 1 "t_avg" context.palette.trendAverage none [],
    .line 1 "g_max" context.palette.globalMaximum (some "↓Общий наиб.\\t") ["dashes"],
    .line 1 "g_avg" context.palette.globalAverage (some "↓Общий сред.\\t") ["dashes"],
    .comment "↓Послед. наим.\\t",
    .comment "↓Послед. наиб.\\t",
    .comment "↓Послед. сред.\\n",
    .report "g_max" "%2.4lf %sHz/sec\\t",
    .report "g_avg" "%2.4lf %sHz/sec\\t",
    .report "g_last_min" "%2.4lf %sHz/sec\\t",
    .report "g_last_max" "%2.4lf %sHz/sec\\t",
    .report "g_last_avg" "%2.4lf %sHz/sec\\n",
    Element.noiseRemark context.errorPercentage]

/-- The rate chart. -/
def declare (context : ChartContext) : Drawing where
  title :=
    titleOf "Интенсивность изменения частоты в сети" (bold (Duration.text context.period))
      "Hz/sec"
  elements := clipping context ++ trends context ++ markers context ++ measurements context

end MainsCharts.Rate
