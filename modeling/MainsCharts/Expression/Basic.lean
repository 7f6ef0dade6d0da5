import MainsCharts.Expression.Operator
import MainsCharts.Numeral.Integer
import MainsCharts.Numeral.Shortest

/-!
# Expressions

An expression is a nested sequence of operands and operators in postfix order.
The nesting is only a convenience of those who build it: an expression is written
as the tokens of its leaves, from left to right, with commas between them.
-/

namespace MainsCharts

set_option autoImplicit false

open Numeral Float.Model

/-- A postfix expression. -/
inductive Expression where
  /-- The value of a series or of a scalar. -/
  | series (name : String)
  | number (value : Float)
  | integer (value : Int)
  | operator (operator : Operator)
  | sequence (parts : List Expression)

namespace Expression

/-- The token of a number.  The doubles without digits have names of their own. -/
def numberToken (value : Float) : String :=
  match value.toModel.unpack with
  | .notANumber => "UNKN"
  | .infinity .positive => "INF"
  | .infinity .negative => "NEGINF"
  | _ => shortestText value

mutual

/-- The tokens of an expression, from left to right. -/
def tokens : Expression → List String
  | series name => [name]
  | number value => [numberToken value]
  | integer value => [Int.repr value]
  | operator symbol => [symbol.token]
  | sequence parts => tokensOfAll parts

/-- The tokens of several expressions, one after the other. -/
def tokensOfAll : List Expression → List String
  | [] => []
  | first :: rest => tokens first ++ tokensOfAll rest

end

/-- Several expressions as one text. -/
def join (expressions : List Expression) : String :=
  ",".intercalate (tokensOfAll expressions)

/-- An expression as a text. -/
def text (expression : Expression) : String :=
  join [expression]

/-- A whole number of sixty-four bits, written as the signed number of those bits. -/
def ofWord (value : Nat) : Expression :=
  .integer (asSigned value)

end Expression

end MainsCharts
