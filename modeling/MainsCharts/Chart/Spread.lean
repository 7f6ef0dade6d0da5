import MainsCharts.Chart.Drawing
import MainsCharts.Chart.Frequency

/-!
# The spread chart

The distance between the greatest and the least frequency of each sample, over a
floating window, both clipped beforehand.
-/

namespace MainsCharts.Spread

set_option autoImplicit false

open Drawing

/-- The series as they are stored, clipped, and their difference. -/
def clipping (context : ChartContext) : List Element :=
  [.stored "r_min" context.path Frequency.source .minimum none,
    .stored "r_max" context.path Frequency.source .maximum none,
    percentile "g_min" "r_min" context.lowerPercentile,
    percentile "g_max" "r_max" context.upperPercentile,
    clipped "f_min" "r_min" (series "g_min") (series "g_max"),
    clipped "f_max" "r_max" (series "g_min") (series "g_max"),
    comparison "r_diff" .subtract "f_max" "f_min",
    reduction "g_diff_min" .seriesMinimum "r_diff",
    reduction "g_diff_max" .seriesMaximum "r_diff"]

/-- The last value, and the series that are marked. -/
def markers (context : ChartContext) : List Element :=
  [reduction "g_last" .seriesLast "r_diff",
    comparison "e_avg_min" .lessThan "r_min" "g_min",
    comparison "e_avg_max" .greaterThan "r_max" "g_max",
    absence "e_miss" "r_min",
    boundaries context.period "r_min",
    .alignLeft,
    .comment "Маркеры:",
    .tick "e_miss" context.palette.missing (some 1.0) (some "  Нет данных"),
    .tick "ztick" context.palette.boundary (some 1.0) none,
    .tick "e_avg_min" context.palette.low (some 0.02) (some "  Возм. ошибки вниз"),
    .tick "e_avg_max" context.palette.high (some (-0.02)) (some "  Возм. ошибки вверх\\n")]

/-- The lines, and the legend below them. -/
def measurements (context : ChartContext) : List Element :=
  [measurementsHeading "Разброс измерений:" context.trendWindow,
    .line 1 "r_diff" (context.palette.rawAverage.withAlpha 0x7F) none ["skipscale"],
    .line 1 "t_diff" context.palette.trendAverage none [],
    .line 1 "g_diff_min" context.palette.globalMinimum (some "↓Наим.\\t") ["dashes"],
    .line 1 "g_diff_max" context.palette.globalMaximum (some "↓Наиб.\\t") ["dashes"],
    .comment "↓Последний\\n",
    .report "g_diff_min" "%3.4lf %sHz\\t",
    .report "g_diff_max" "%3.4lf %sHz\\t",
    .report "g_last" "%2.4lf %sHz\\n",
    Element.noiseRemark context.errorPercentage]

/-- The spread chart. -/
def declare (context : ChartContext) : Drawing where
  title := titleOf "Разброс частоты в сети" (bold (Duration.text context.period)) "Hz"
  elements :=
    clipping context ++ Element.trend "t_diff" "r_diff" context.trendWindow ++
      markers context ++ measurements context

end MainsCharts.Spread
