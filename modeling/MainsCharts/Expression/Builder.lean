import MainsCharts.Expression.Basic
import MainsCharts.Failure

/-!
# Building expressions

The shapes of expression that the charts are made of.  An operator stands after
its operands; a chain folds an associative operator over its operands from the
left; an average is followed by the number of values it takes.
-/

namespace MainsCharts.Expression

set_option autoImplicit false

/-- An operator and its only operand. -/
def unary (symbol : Operator) (operand : Expression) : Expression :=
  .sequence [operand, .operator symbol]

/-- An operator and its two operands. -/
def binary (symbol : Operator) (first second : Expression) : Expression :=
  .sequence [first, second, .operator symbol]

/-- Further operands of a chain, each with the operator that takes it in. -/
def links (symbol : Operator) (operands : List Expression) : List Expression :=
  operands.flatMap fun operand => [operand, .operator symbol]

/-- An associative operator folded over its operands from the left.  One operand
stands for itself. -/
def chain (symbol : Operator) (operands : List Expression) : Except Misuse Expression :=
  if symbol.isAssociative then
    match operands with
    | [] => .error (.emptyChain symbol)
    | [operand] => .ok operand
    | first :: rest => .ok (.sequence (first :: links symbol rest))
  else .error (.notAssociative symbol)

/-- The average of the operands. -/
def average (operands : List Expression) : Except Misuse Expression :=
  if operands.isEmpty then .error .emptyAverage
  else .ok (.sequence (operands ++ [.ofWord operands.length, .operator .average]))

/-- A value moved to the nearer end of the range that it lies outside of.  When
unknown bounds are tolerated they leave the value as it is. -/
def fit (value lower upper : Expression) (tolerant : Bool) : Expression :=
  let (least, greatest) :=
    if tolerant then (Operator.minimumKnown, Operator.maximumKnown)
    else (Operator.minimum, Operator.maximum)
  .sequence [value, upper, .operator least, lower, .operator greatest]

/-- A value inside a range, and an unknown value outside of it. -/
def drop (value lower upper : Expression) : Expression :=
  .sequence [value, lower, upper, .operator .limit]

end MainsCharts.Expression
