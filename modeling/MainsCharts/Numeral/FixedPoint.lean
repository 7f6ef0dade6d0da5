import MainsCharts.Numeral.Rounding

/-!
# Fixed point numerals

A whole number of units of `10 ^ -places`, written with that many digits after
the point, or without a point when there are none.  A double is written to a
fixed number of places by rounding its exact value to such a number of units, a
half going to the even neighbour.  A negative zero keeps its sign.

A limit of an axis is such a numeral with at most ten digits after the point.  Zeros
at the end of the decimals are dropped, and the point with them when none are left; a
negative number that rounds to zero is written without its sign.
-/

namespace MainsCharts.Numeral

set_option autoImplicit false

open Float.Model

-- A power of whole numbers is the one of the core library, whatever else is in scope.
attribute [local instance (2000)] instPowNat

/-- The decimal digits of a number, filled up with zeros on the left. -/
def paddedDigits (width value : Nat) : List Char :=
  let digits := Nat.toDigits 10 value
  List.replicate (width - digits.length) '0' ++ digits

/-- A number of units of `10 ^ -places`. -/
def fixedPoint (places units : Nat) : List Char :=
  if places = 0 then Nat.toDigits 10 units
  else
    Nat.toDigits 10 (units / 10 ^ places) ++ '.' :: paddedDigits places (units % 10 ^ places)

/-- The sign in front of a numeral. -/
def signText : UnpackedFloat.Sign → List Char
  | .positive => []
  | .negative => ['-']

/-- A double with a finite magnitude written by a rule, and the others by name. -/
def numeral (magnitude : Nat → Int → List Char) (zero : List Char) (value : Float) : List Char :=
  match value.toModel.unpack with
  | .notANumber => ['N', 'a', 'N']
  | .infinity sign => signText sign ++ ['i', 'n', 'f']
  | .zero sign => signText sign ++ zero
  | .finite sign mantissa exponent _ => signText sign ++ magnitude mantissa exponent

/-- The number of units of `10 ^ -places` nearest to a magnitude. -/
def nearestUnits (places mantissa : Nat) (exponent : Int) : Nat :=
  let (numerator, denominator) := fraction mantissa exponent
  roundHalfEven (numerator * 10 ^ places) denominator

/-- A double with a fixed number of digits after the point. -/
def toPlaces (places : Nat) (value : Float) : List Char :=
  numeral (fun mantissa exponent => fixedPoint places (nearestUnits places mantissa exponent))
    (fixedPoint places 0) value

end MainsCharts.Numeral

namespace MainsCharts

set_option autoImplicit false

open Numeral

/-! ## Limits of an axis -/

/-- A text without the repetitions of a character at its end. -/
def dropTrailing (character : Char) (text : List Char) : List Char :=
  (text.reverse.dropWhile (· = character)).reverse

/-- An axis limit. -/
def limitDigits (value : Float) : List Char :=
  match dropTrailing '.' (dropTrailing '0' (toPlaces 10 value)) with
  | [] | ['-', '0'] => ['0']
  | digits => digits

/-- An axis limit as a text. -/
def limitText (value : Float) : String :=
  String.ofList (limitDigits value)

end MainsCharts
