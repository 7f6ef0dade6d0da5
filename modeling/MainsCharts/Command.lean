import MainsCharts.Color
import MainsCharts.Session
import MainsCharts.Text.Quoting

/-!
# Commands

A command is the renderer with its arguments, ready to be run or to be shown in
the form that a shell would take.  Its first arguments are those of the canvas: the
size of a chart and the settings that do not depend on what it shows.
-/

namespace MainsCharts

set_option autoImplicit false

open Text

/-! ## The canvas -/

/-- The size and the fixed settings of a chart. -/
structure Canvas where
  width : Nat
  height : Nat
  /-- The distance of the tabulations in the legend. -/
  tabWidth : Nat
  markup : Bool
  autoscale : Bool
  grid : Bool
  /-- The color behind the chart; without one the renderer chooses. -/
  background : Option Color

namespace Canvas

/-- The canvas of all charts, with a transparent background. -/
def standard : Canvas where
  width := 960
  height := 384
  tabWidth := 100
  markup := true
  autoscale := true
  grid := true
  background := some ⟨0xFF, 0xFF, 0xFF, 0x00⟩

/-- An argument that is given when a setting is on. -/
def setting (enabled : Bool) (argument : String) : List String :=
  if enabled then [argument] else []

/-- The arguments of the background. -/
def backgroundArguments : Option Color → List String
  | some color => ["--color", "BACK" ++ color.text]
  | none => []

/-- The arguments of a canvas for an image. -/
def arguments (canvas : Canvas) (image : String) : List String :=
  ["graph", image, "--width", Nat.repr canvas.width, "--height", Nat.repr canvas.height] ++
    setting canvas.markup "--pango-markup" ++
    ["--tabwidth", Nat.repr canvas.tabWidth] ++
    setting canvas.autoscale "--alt-autoscale" ++
    setting canvas.grid "--alt-y-grid" ++
    backgroundArguments canvas.background

end Canvas

/-! ## Commands -/

/-- The renderer with its arguments. -/
structure Command where
  program : String
  arguments : List String
  deriving DecidableEq

/-- What to do with a command. -/
inductive RunMode where
  | print
  | execute
  deriving DecidableEq

/-- Without further notice commands are executed. -/
def RunMode.standard : RunMode := execute

namespace Command

/-- A command as a line for a shell. -/
def text (command : Command) : String :=
  shellLine (command.program :: command.arguments)

/-- Prints a command, or has the renderer draw. -/
def run (command : Command) (mode : RunMode) (renderer : Renderer) : Session Unit :=
  match mode with
  | .print => Session.printLine command.text
  | .execute => do
      Session.note (.rendering command.program command.arguments.length)
      let _ ← renderer.ask .execute command.arguments

end Command

end MainsCharts
