import MainsCharts.Numeral.FixedPoint

/-!
# Shortest numerals

A double is written with the fewest digits that read back to it.  The real
numbers that round to a double form an interval around it, which contains its
ends exactly when the mantissa is even and reaches only half as far down when the
mantissa is the least normal one.  On the grid of the multiples of a power of
ten only the two neighbours of the double can be the nearest that lie in the
interval; the coarsest grid with such a neighbour gives the digits, and of two
neighbours the nearer wins, the upper one on a tie.

The numeral is positional whatever the magnitude: no exponent, no point after a
whole number, and zeros as far as the digits need them.
-/

namespace MainsCharts.Numeral

set_option autoImplicit false

-- A power of whole numbers is the one of the core library, whatever else is in scope.
attribute [local instance (2000)] instPowNat

/-- The interval of a finite double in quarters of a unit in the last place of its
mantissa: the distance down, the distance up, and whether the ends belong to it. -/
structure Neighbourhood where
  below : Nat
  above : Nat
  closed : Bool
  deriving DecidableEq

/-- The least mantissa of a normal double. -/
def leastNormal : Nat := 4503599627370496

/-- The interval of the doubles that `mantissa · 2 ^ exponent` stands for. -/
def neighbourhood (mantissa : Nat) (exponent : Int) : Neighbourhood where
  below := if mantissa = leastNormal ∧ -1074 < exponent then 1 else 2
  above := 2
  closed := mantissa % 2 = 0

/-- A decimal number `digits · 10 ^ power`. -/
structure Decimal where
  digits : Nat
  power : Int
  deriving DecidableEq

/-- The scale of a grid: a quarter unit of the mantissa is `numerator` parts of which
a step of the grid `10 ^ power` has `denominator`. -/
def gridScale (exponent power : Int) : Nat × Nat :=
  (2 ^ (exponent - 2).toNat * 10 ^ (-power).toNat, 2 ^ (2 - exponent).toNat * 10 ^ power.toNat)

/-- The neighbour on the grid `10 ^ power` that lies in the interval of a double and
is nearest to it. -/
def onGrid? (mantissa : Nat) (exponent power : Int) : Option Decimal :=
  let reach := neighbourhood mantissa exponent
  let (numerator, denominator) := gridScale exponent power
  let value := 4 * mantissa * numerator
  let least := (4 * mantissa - reach.below) * numerator
  let greatest := (4 * mantissa + reach.above) * numerator
  let lower := value / denominator
  let upper := lower + 1
  let lowerFits :=
    if reach.closed then least ≤ lower * denominator else least < lower * denominator
  let upperFits :=
    if reach.closed then upper * denominator ≤ greatest else upper * denominator < greatest
  if lowerFits ∧ (¬ upperFits ∨ 2 * (value % denominator) < denominator) then
    some ⟨lower, power⟩
  else if upperFits then some ⟨upper, power⟩
  else none

/-- The power of ten of the leading digit of a magnitude. -/
def leadingPower (mantissa : Nat) (exponent : Int) : Int :=
  let (numerator, denominator) := fraction mantissa exponent
  if denominator ≤ numerator then
    ((Nat.toDigits 10 (numerator / denominator)).length : Int) - 1
  else
    -((Nat.toDigits 10 ((denominator - 1) / numerator)).length : Int)

/-- The shortest decimal number that reads back to a double, and of those the nearest.
Seventeen digits always suffice, so the last grid is a bound and not a limit. -/
def shortestDecimal (mantissa : Nat) (exponent : Int) : Decimal :=
  let leading := leadingPower mantissa exponent
  ((List.range 19).findSome? fun (finer : Nat) =>
      onGrid? mantissa exponent (leading + 1 - finer)).getD
    ⟨(fraction mantissa exponent).1, 0⟩

/-- A decimal number in positional notation. -/
def Decimal.positional (number : Decimal) : List Char :=
  if 0 ≤ number.power then fixedPoint 0 (number.digits * 10 ^ number.power.toNat)
  else fixedPoint (-number.power).toNat number.digits

/-- The shortest numeral of a double. -/
def shortest (value : Float) : List Char :=
  numeral (fun mantissa exponent => (shortestDecimal mantissa exponent).positional) ['0'] value

/-- The shortest numeral of a double as a text. -/
def shortestText (value : Float) : String :=
  String.ofList (shortest value)

end MainsCharts.Numeral
