/-!
# Integers in decimal

Reading whole numbers of a fixed width.  The digits are taken from left to
right, and the first thing that goes wrong decides the fault: a character that is
no digit, or a value that has grown past the width.  A plus sign may stand in
front; a minus sign only where the numbers are signed.
-/

namespace MainsCharts.Numeral

set_option autoImplicit false

/-- Why a text is no integer of the wanted width. -/
inductive IntegerFault where
  | empty
  | invalidDigit
  | tooLarge
  | tooSmall
  deriving DecidableEq

/-- The wording of a fault. -/
def IntegerFault.message : IntegerFault → String
  | .empty => "cannot parse integer from empty string"
  | .invalidDigit => "invalid digit found in string"
  | .tooLarge => "number too large to fit in target type"
  | .tooSmall => "number too small to fit in target type"

/-- The digits of a text added to a value that may not exceed `most`. -/
def accumulate (most : Nat) (overflow : IntegerFault) :
    Nat → List Char → Except IntegerFault Nat
  | value, [] => .ok value
  | value, digit :: rest =>
      if digit.isDigit then
        let grown := value * 10 + (digit.toNat - '0'.toNat)
        if grown ≤ most then accumulate most overflow grown rest else .error overflow
      else .error .invalidDigit

/-- One digit or more, with a value of at most `most`. -/
def readDigits (most : Nat) (overflow : IntegerFault) (text : List Char) :
    Except IntegerFault Nat :=
  if text.isEmpty then .error .invalidDigit else accumulate most overflow 0 text

/-- A number from zero to `most`. -/
def readUnsigned (most : Nat) (text : List Char) : Except IntegerFault Nat :=
  match text with
  | [] => .error .empty
  | '+' :: rest => readDigits most .tooLarge rest
  | _ => readDigits most .tooLarge text

/-- A number from `-(most + 1)` to `most`. -/
def readSigned (most : Nat) (text : List Char) : Except IntegerFault Int :=
  match text with
  | [] => .error .empty
  | '-' :: rest => (readDigits (most + 1) .tooSmall rest).map fun value => -(value : Int)
  | _ => (readUnsigned most text).map Int.ofNat

/-- The greatest number of sixty-four bits. -/
def greatestWord : Nat := 18446744073709551615

/-- The greatest signed number of sixty-four bits. -/
def greatestSigned : Nat := 9223372036854775807

/-- A run of digits, if it has any and its value is at most `most`. -/
def digitsUpTo? (most : Nat) (text : List Char) : Option Nat :=
  (readDigits most .tooLarge text).toOption

/-- A number read as the signed number with the same sixty-four bits. -/
def asSigned (value : Nat) : Int :=
  Int.bmod (value : Int) (greatestWord + 1)

end MainsCharts.Numeral
