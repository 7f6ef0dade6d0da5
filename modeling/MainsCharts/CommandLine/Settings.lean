import MainsCharts.CommandLine.Usage
import MainsCharts.FileStore
import MainsCharts.TrendWindow

/-!
# Settings

The values that a command line gives to the parameters of a command.  Each value
is read in its own way, and each parameter and switch may be given once.
-/

namespace MainsCharts.CommandLine

set_option autoImplicit false

open Numeral

/-- The values that were given. -/
structure Settings where
  renderer : Option String
  database : Option String
  image : Option String
  trend : Option TrendWindow
  noise : Option Float
  lowerLimit : Option Float
  upperLimit : Option Float
  start : Option String
  stop : Option String
  width : Option Nat
  depth : Option Nat
  dump : Option String
  blacklist : Option String
  output : Option String
  printOnly : Bool
  skipDetection : Bool

/-- Nothing given. -/
def Settings.none : Settings where
  renderer := .none
  database := .none
  image := .none
  trend := .none
  noise := .none
  lowerLimit := .none
  upperLimit := .none
  start := .none
  stop := .none
  width := .none
  depth := .none
  dump := .none
  blacklist := .none
  output := .none
  printOnly := false
  skipDetection := false

/-! ## Reading values -/

/-- Any text. -/
def readText (text : String) : Except ValueFault String :=
  .ok text

/-- A path, which is not empty. -/
def readPath (text : String) : Except ValueFault String :=
  if text.isEmpty then .error .absent else .ok text

/-- The path of an existing regular file. -/
def readSource (store : FileStore) (text : String) : Except ValueFault String :=
  (store.validateSource text).mapError .misuse

/-- The window of the trends. -/
def readTrend (text : String) : Except ValueFault TrendWindow :=
  (TrendWindow.read text).mapError .misuse

/-- The percentage of noise. -/
def readNoise (text : String) : Except ValueFault Float :=
  match readNumber text.toList with
  | .error _ => .error (.notNumeric text)
  | .ok value =>
      if 0.0 ≤ value ∧ value < 50.0 then .ok value else .error (.noiseOutside value)

/-- A limit of the axis. -/
def readLimit (text : String) : Except ValueFault Float :=
  (readNumber text.toList).mapError .number

/-- The least width of a stretch. -/
def leastWidth : Nat := 60

/-- The greatest number of stretches. -/
def greatestDepth : Nat := 4294967295

/-- The width of a stretch of an overlay. -/
def readWidth (text : String) : Except ValueFault Nat :=
  match readUnsigned greatestWord text.toList with
  | .error fault => .error (.integer fault)
  | .ok value =>
      if leastWidth ≤ value then .ok value
      else .error (.outside value (Nat.repr leastWidth ++ ".." ++ Nat.repr greatestWord))

/-- The number of stretches of an overlay. -/
def readDepth (text : String) : Except ValueFault Nat :=
  match readSigned greatestSigned text.toList with
  | .error fault => .error (.integer fault)
  | .ok value =>
      if 1 ≤ value ∧ value ≤ greatestDepth then .ok value.toNat
      else .error (.outside value ("1..=" ++ Nat.repr greatestDepth))

/-! ## Giving values -/

/-- The value of a parameter, which must not have been given before. -/
def given {α : Type} (parameter : Parameter) (before : Option α)
    (read : String → Except ValueFault α) (text : String) : Except UsageError (Option α) :=
  if before.isSome then .error (.repeated parameter.usage)
  else
    match read text with
    | .ok value => .ok (some value)
    | .error .absent => .error (.valueMissing parameter)
    | .error fault => .error (.invalidValue parameter text fault)

/-- A value given to a parameter. -/
def Settings.give (settings : Settings) (store : FileStore) (parameter : Parameter)
    (text : String) : Except UsageError Settings := do
  match parameter with
  | .renderer =>
      return { settings with renderer := ← given parameter settings.renderer readText text }
  | .database =>
      return { settings with
        database := ← given parameter settings.database (readSource store) text }
  | .image => return { settings with image := ← given parameter settings.image readPath text }
  | .trend => return { settings with trend := ← given parameter settings.trend readTrend text }
  | .noise => return { settings with noise := ← given parameter settings.noise readNoise text }
  | .lowerLimit =>
      return { settings with lowerLimit := ← given parameter settings.lowerLimit readLimit text }
  | .upperLimit =>
      return { settings with upperLimit := ← given parameter settings.upperLimit readLimit text }
  | .start => return { settings with start := ← given parameter settings.start readText text }
  | .stop => return { settings with stop := ← given parameter settings.stop readText text }
  | .width => return { settings with width := ← given parameter settings.width readWidth text }
  | .depth => return { settings with depth := ← given parameter settings.depth readDepth text }
  | .dump => return { settings with dump := ← given parameter settings.dump readPath text }
  | .blacklist =>
      return { settings with blacklist := ← given parameter settings.blacklist readPath text }
  | .output => return { settings with output := ← given parameter settings.output readPath text }

/-- A switch turned on, which must not have been turned on before. -/
def turnedOn (switch : Switch) (before : Bool) : Except UsageError Bool :=
  if before then .error (.repeated (typed switch.label)) else .ok true

/-- A switch turned on. -/
def Settings.turnOn (settings : Settings) (switch : Switch) : Except UsageError Settings := do
  match switch with
  | .printOnly => return { settings with printOnly := ← turnedOn switch settings.printOnly }
  | .skipDetection =>
      return { settings with skipDetection := ← turnedOn switch settings.skipDetection }

end MainsCharts.CommandLine
