import MainsCharts.Color

/-!
# The palette

The colors that all charts share, by what they mark.
-/

namespace MainsCharts

set_option autoImplicit false

/-- The drawing colors of the charts. -/
structure Palette where
  name : String
  /-- Samples without data. -/
  missing : Color
  /-- Samples where every overlaid period is without data. -/
  missingAll : Color
  /-- The start of a period. -/
  boundary : Color
  low : Color
  high : Color
  nominal : Color
  rawMinimum : Color
  rawMaximum : Color
  rawAverage : Color
  trendMinimum : Color
  trendMaximum : Color
  trendAverage : Color
  globalMinimum : Color
  globalMaximum : Color
  globalAverage : Color
  /-- The average over the overlaid periods. -/
  overall : Color
  /-- The raw lines of the overlaid periods, from the oldest to the most recent. -/
  depthOldest : Color
  depthRecent : Color
  /-- The trend lines of the overlaid periods, from the oldest to the most recent. -/
  depthTrendOldest : Color
  depthTrendRecent : Color

/-- The palette that all charts are drawn with. -/
def Palette.classic : Palette where
  name := "classic"
  missing := Color.opaqueOf 0xBF 0xBF 0xBF
  missingAll := Color.opaqueOf 0x7F 0x7F 0x7F
  boundary := Color.opaqueOf 0xFF 0xFF 0x00
  low := Color.opaqueOf 0x00 0x00 0xFF
  high := Color.opaqueOf 0xFF 0x00 0x00
  nominal := Color.opaqueOf 0x7F 0x00 0x7F
  rawMinimum := Color.opaqueOf 0x00 0x00 0xFF
  rawMaximum := Color.opaqueOf 0xFF 0x00 0x00
  rawAverage := Color.opaqueOf 0x00 0xFF 0x00
  trendMinimum := Color.opaqueOf 0x3F 0x3F 0xFF
  trendMaximum := Color.opaqueOf 0xFF 0x3F 0x3F
  trendAverage := Color.opaqueOf 0x3F 0x7F 0x3F
  globalMinimum := Color.opaqueOf 0x00 0x00 0x7F
  globalMaximum := Color.opaqueOf 0x7F 0x00 0x00
  globalAverage := Color.opaqueOf 0x00 0x7F 0x00
  overall := Color.opaqueOf 0x00 0x00 0x00
  depthOldest := ⟨0x00, 0xFF, 0xFF, 0x7F⟩
  depthRecent := ⟨0xFF, 0xFF, 0x00, 0x7F⟩
  depthTrendOldest := Color.opaqueOf 0x00 0x7F 0x7F
  depthTrendRecent := Color.opaqueOf 0x7F 0x7F 0x00

end MainsCharts
