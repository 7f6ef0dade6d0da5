import MainsCharts.Numeral.Integer

/-!
# Rounding doubles to integers

A finite double is a sign and a product of a whole mantissa and a power of two.
So its magnitude is a fraction of two whole numbers, and every rounding here is
exact arithmetic on that fraction: down, to the nearest with halves upward, and
to the nearest with halves to the even neighbour.  The conversions to words
saturate: what is below the least word becomes it, what is above the greatest
becomes that, and what is not a number becomes zero.
-/

namespace MainsCharts.Numeral

set_option autoImplicit false

open Float.Model

-- A power of whole numbers is the one of the core library, whatever else is in scope.
attribute [local instance (2000)] instPowNat

/-- The magnitude `mantissa · 2 ^ exponent` as a numerator and a denominator. -/
def fraction (mantissa : Nat) (exponent : Int) : Nat × Nat :=
  (mantissa * 2 ^ exponent.toNat, 2 ^ (-exponent).toNat)

/-- The integer at or below a fraction. -/
def floorQuotient (numerator denominator : Nat) : Nat :=
  numerator / denominator

/-- The integer nearest to a fraction, a half going up. -/
def roundHalfUp (numerator denominator : Nat) : Nat :=
  (2 * numerator + denominator) / (2 * denominator)

/-- The integer nearest to a fraction, a half going to the even neighbour. -/
def roundHalfEven (numerator denominator : Nat) : Nat :=
  let below := numerator / denominator
  match compare (2 * (numerator % denominator)) denominator with
  | .lt => below
  | .eq => below + below % 2
  | .gt => below + 1

/-- A double rounded by a rule for magnitudes and brought into the range from zero
to `most`.  The rule never turns a negative value into a positive one. -/
def saturate (rule : Nat → Nat → Nat) (most : Nat) (value : Float) : Nat :=
  match value.toModel.unpack with
  | .notANumber => 0
  | .infinity .positive => most
  | .infinity .negative => 0
  | .zero _ => 0
  | .finite .negative _ _ _ => 0
  | .finite .positive mantissa exponent _ =>
      let (numerator, denominator) := fraction mantissa exponent
      min most (rule numerator denominator)

/-- The greatest whole number at or below a double, brought into sixty-four bits. -/
def floorToWord (value : Float) : Nat :=
  saturate floorQuotient greatestWord value

/-- The whole number nearest to a double, halves away from zero, brought into eight
bits. -/
def roundToByte (value : Float) : UInt8 :=
  UInt8.ofNat (saturate roundHalfUp 255 value)

end MainsCharts.Numeral
