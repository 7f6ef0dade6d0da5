/-!
# Decimal literals

A literal is an optional sign, digits with an optional point among, before or
after them, and an optional exponent.  Which characters count as the point is
left to the caller: reports written under some locales have a decimal comma.  The
value of a literal is the double nearest to it, an overflow being infinite.

Where a number is typed in by hand, the words for infinity and for what is not a
number are accepted too, in any case.
-/

namespace MainsCharts.Numeral

set_option autoImplicit false

/-- The number `± digits · 10 ^ exponent`. -/
structure Literal where
  negative : Bool
  digits : Nat
  exponent : Int
  deriving DecidableEq

/-- An optional sign in front of a text: whether it is a minus, and what follows. -/
def splitSign : List Char → Bool × List Char
  | '+' :: rest => (false, rest)
  | '-' :: rest => (true, rest)
  | text => (false, text)

/-- The value of a list of digits. -/
def digitsValue (digits : List Char) : Nat :=
  Nat.ofDigitChars 10 digits 0

/-- The exponent part of a literal, from the letter on. -/
def readExponent? : List Char → Option Int
  | [] => some 0
  | letter :: rest =>
      if letter = 'e' ∨ letter = 'E' then
        let (negative, digits) := splitSign rest
        if digits.isEmpty ∨ ¬ digits.all Char.isDigit then none
        else some (if negative then -(digitsValue digits : Int) else digitsValue digits)
      else none

/-- The digits after the point, and what follows them. -/
def splitFraction (isPoint : Char → Bool) : List Char → List Char × List Char
  | [] => ([], [])
  | point :: rest =>
      if isPoint point then (rest.takeWhile Char.isDigit, rest.dropWhile Char.isDigit)
      else ([], point :: rest)

/-- A literal that is the whole of a text. -/
def Literal.read? (isPoint : Char → Bool) (text : List Char) : Option Literal :=
  let (negative, unsigned) := splitSign text
  let whole := unsigned.takeWhile Char.isDigit
  let (decimals, tail) := splitFraction isPoint (unsigned.dropWhile Char.isDigit)
  if whole.isEmpty ∧ decimals.isEmpty then none
  else
    (readExponent? tail).map fun exponent =>
      { negative
        digits := digitsValue (whole ++ decimals)
        exponent := exponent - decimals.length }

/-- The double nearest to a literal. -/
def Literal.toFloat (literal : Literal) : Float :=
  let magnitude :=
    Float.ofScientific literal.digits (literal.exponent < 0) literal.exponent.natAbs
  if literal.negative then -magnitude else magnitude

/-- The point of a number typed in by hand. -/
def isFullStop (character : Char) : Bool :=
  character = '.'

/-- The point of a number in a report: a full stop or a comma. -/
def isDecimalMark (character : Char) : Bool :=
  character = '.' || character = ','

/-- Why a text is no number. -/
inductive NumberFault where
  | empty
  | malformed
  deriving DecidableEq

/-- The wording of a fault. -/
def NumberFault.message : NumberFault → String
  | .empty => "cannot parse float from empty string"
  | .malformed => "invalid float literal"

/-- The infinite doubles and the one that is not a number, by name. -/
def namedValue? (name : List Char) : Option Float :=
  match String.ofList (name.map Char.toLower) with
  | "inf" | "infinity" => some (1.0 / 0.0)
  | "nan" => some (0.0 / 0.0)
  | _ => none

/-- A number typed in by hand. -/
def readNumber (text : List Char) : Except NumberFault Float :=
  if text.isEmpty then .error .empty
  else
    match Literal.read? isFullStop text with
    | some literal => .ok literal.toFloat
    | none =>
        let (negative, name) := splitSign text
        match namedValue? name with
        | some value => .ok (if negative then -value else value)
        | none => .error .malformed

end MainsCharts.Numeral
