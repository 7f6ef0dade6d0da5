import MainsCharts.Failure
import MainsCharts.Numeral.Rounding

/-!
# Colors

A color has four channels of eight bits.  It is written as a number sign and two
hexadecimal digits per channel, in upper case, and the opacity is left out when
the color is opaque.  It is read in either case, with or without the opacity.

Two colors are blended channel by channel: the share of the first is the
parameter, the share of the second what is missing to one.  A gradient of `n`
colors samples the parameter at equal steps from zero to one, so it runs from the
second color to the first; a gradient of one color has only the second.
-/

namespace MainsCharts

set_option autoImplicit false

open Numeral

/-- A color with its opacity. -/
structure Color where
  red : UInt8
  green : UInt8
  blue : UInt8
  alpha : UInt8
  deriving DecidableEq

namespace Color

/-- An opaque color. -/
def opaqueOf (red green blue : UInt8) : Color :=
  ⟨red, green, blue, 0xFF⟩

/-- The same color with another opacity. -/
def withAlpha (color : Color) (alpha : UInt8) : Color :=
  { color with alpha }

/-- The upper case hexadecimal digit of a number below sixteen. -/
def hexDigit (value : Nat) : Char :=
  (Nat.digitChar value).toUpper

/-- A channel as two digits. -/
def channelDigits (channel : UInt8) : List Char :=
  [hexDigit (channel.toNat / 16), hexDigit (channel.toNat % 16)]

/-- A color as it is written, character by character. -/
def digits (color : Color) : List Char :=
  '#' :: channelDigits color.red ++ channelDigits color.green ++ channelDigits color.blue ++
    if color.alpha = 0xFF then [] else channelDigits color.alpha

/-- A color as it is written. -/
def text (color : Color) : String :=
  String.ofList color.digits

/-- The value of a hexadecimal digit. -/
def hexValue? (digit : Char) : Option Nat :=
  if digit.isDigit then some (digit.toNat - '0'.toNat)
  else if 'a' ≤ digit ∧ digit ≤ 'f' then some (digit.toNat - 'a'.toNat + 10)
  else if 'A' ≤ digit ∧ digit ≤ 'F' then some (digit.toNat - 'A'.toNat + 10)
  else none

/-- The channels of a list of hexadecimal digits, two by two. -/
def channels? : List Char → Option (List UInt8)
  | [] => some []
  | [_] => none
  | high :: low :: rest => do
      let upper ← hexValue? high
      let lower ← hexValue? low
      let others ← channels? rest
      return UInt8.ofNat (upper * 16 + lower) :: others

/-- A color read from its digits. -/
def ofDigits? (text : List Char) : Option Color :=
  match text with
  | '#' :: digits =>
      match channels? digits with
      | some [red, green, blue] => some (opaqueOf red green blue)
      | some [red, green, blue, alpha] => some ⟨red, green, blue, alpha⟩
      | _ => none
  | _ => none

/-- A color read from a text. -/
def read (text : String) : Except Misuse Color :=
  match ofDigits? text.toList with
  | some color => .ok color
  | none => .error (.color text)

/-! ## Gradients -/

/-- One channel of a blend. -/
def blendChannel (first second : UInt8) (share : Float) : UInt8 :=
  roundToByte (first.toFloat * share + second.toFloat * (1.0 - share))

/-- A blend of two colors, with the given share of the first. -/
def blend (first second : Color) (share : Float) : Color where
  red := blendChannel first.red second.red share
  green := blendChannel first.green second.green share
  blue := blendChannel first.blue second.blue share
  alpha := blendChannel first.alpha second.alpha share

/-- The share of the first color at a position of a gradient. -/
def gradientShare (count position : Nat) : Float :=
  Float.ofNat position / Float.ofNat (count - 1)

/-- A gradient of `count` colors from the second color to the first. -/
def gradient (first second : Color) (count : Nat) : List Color :=
  if count = 1 then [second]
  else (List.range count).map fun position => blend first second (gradientShare count position)

theorem length_gradient (first second : Color) (count : Nat) :
    (gradient first second count).length = count := by
  unfold gradient
  split
  · rename_i single
    exact single.symm
  · rw [List.length_map, List.length_range]

end Color

end MainsCharts
