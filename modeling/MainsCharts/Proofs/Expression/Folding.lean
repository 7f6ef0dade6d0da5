import MainsCharts.Proofs.Expression.Reading

/-!
# The tokens of what is built

An expression is flat once it is written, so what the builders make can be given as a list of
tokens.  A chain starts with its first operand, and every further operand is followed by the
operator that takes it in (`tokens_chain`).  An average is all of its operands, their number and
the operator that takes as many (`tokens_average`).
-/

namespace MainsCharts.Expression

set_option autoImplicit false

open Numeral Float.Model

/-- The tokens of operands folded from the left, each further one followed by the operator. -/
def foldTokens (symbol : String) : List (List String) → List String
  | [] => []
  | first :: rest => first ++ rest.flatMap fun operand => operand ++ [symbol]

theorem tokensOfAll_eq (parts : List Expression) : tokensOfAll parts = parts.flatMap tokens := by
  induction parts with
  | nil => rfl
  | cons part parts ih => rw [tokensOfAll, ih, List.flatMap_cons]

theorem text_eq_intercalate (expression : Expression) :
    expression.text = ",".intercalate expression.tokens := by
  rw [text, join, tokensOfAll_eq, List.flatMap_singleton]

theorem tokens_drop (value lower upper : Expression) :
    (drop value lower upper).tokens =
      value.tokens ++ lower.tokens ++ upper.tokens ++ [Operator.limit.token] := by
  simp only [drop, tokens, tokensOfAll_eq, List.flatMap_cons, List.flatMap_nil, List.append_nil,
    List.append_assoc]

theorem tokensOfAll_links (symbol : Operator) (operands : List Expression) :
    tokensOfAll (links symbol operands) =
      (operands.map tokens).flatMap fun operand => operand ++ [symbol.token] := by
  simp only [tokensOfAll_eq, links, List.flatMap_assoc, List.flatMap_map, List.flatMap_cons,
    List.flatMap_nil, List.append_nil, tokens]

/-- The tokens of a chain are those of its operands, folded from the left. -/
theorem tokens_chain {symbol : Operator} {operands : List Expression} {built : Expression}
    (chained : chain symbol operands = .ok built) :
    built.tokens = foldTokens symbol.token (operands.map tokens) := by
  unfold chain at chained
  split at chained
  · split at chained
    · cases chained
    · obtain rfl := Except.ok.inj chained
      simp only [foldTokens, List.map_cons, List.map_nil, List.flatMap_nil, List.append_nil]
    · obtain rfl := Except.ok.inj chained
      simp only [foldTokens, tokens, tokensOfAll, tokensOfAll_links, List.map_cons]
  · cases chained

/-- The tokens of an average are those of its operands, their number and the operator. -/
theorem tokens_average {operands : List Expression} {built : Expression}
    (averaged : average operands = .ok built) :
    built.tokens =
      operands.flatMap tokens ++ [Int.repr (asSigned operands.length), Operator.average.token] := by
  unfold average at averaged
  split at averaged
  · cases averaged
  · obtain rfl := Except.ok.inj averaged
    simp only [tokens, ofWord, tokensOfAll_eq, List.flatMap_append, List.flatMap_cons,
      List.flatMap_nil, List.append_nil, List.cons_append, List.nil_append]

end MainsCharts.Expression
