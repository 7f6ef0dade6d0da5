import MainsCharts.Proofs.Element.Reading

/-!
# The operators of an expression

The token of an operator stands in a written expression only when the operator stands in the
expression itself (`mem_operators_of_mem_tokens`): no name of a series is one, and of the
numbers only the unknown one is written like an operator.

What the builders make has the operators of its operands and those that they put in.
-/

namespace MainsCharts.Expression

set_option autoImplicit false

mutual

/-- The operators in an expression, from left to right. -/
def operators : Expression → List Operator
  | series _ | number _ | integer _ => []
  | operator symbol => [symbol]
  | sequence parts => operatorsOfAll parts

/-- The operators in several expressions. -/
def operatorsOfAll : List Expression → List Operator
  | [] => []
  | first :: rest => operators first ++ operatorsOfAll rest

end

/-! ## Tokens -/

variable {symbol : Operator}

mutual

/-- **The token of an operator** comes from an operator of the expression. -/
theorem mem_operators_of_mem_tokens (unlike : isNumberToken symbol.token = false) :
    ∀ expression : Expression, (∀ name ∈ expression.names, isName name = true) →
      symbol.token ∈ expression.tokens → symbol ∈ expression.operators
  | series name, named, member => by
      have isToken : symbol.token = name := List.mem_singleton.mp member
      have none := ofToken?_eq_none_of_isName (named name (List.mem_singleton_self name))
      rw [← isToken, Operator.ofToken?_token] at none
      exact nomatch none
  | number value, _, member => by
      have isToken : symbol.token = numberToken value := List.mem_singleton.mp member
      rw [isToken, isNumberToken_numberToken] at unlike
      exact nomatch unlike
  | integer value, _, member => by
      have isToken : symbol.token = Int.repr value := List.mem_singleton.mp member
      rw [isToken, isNumberToken_of_isPlain (Numeral.isPlain_intRepr value)] at unlike
      exact nomatch unlike
  | operator other, _, member => by
      have isToken : symbol.token = other.token := List.mem_singleton.mp member
      have same := congrArg Operator.ofToken? isToken
      rw [Operator.ofToken?_token, Operator.ofToken?_token] at same
      exact List.mem_singleton.mpr (Option.some.inj same)
  | sequence parts, named, member => mem_operatorsOfAll unlike parts named member

theorem mem_operatorsOfAll (unlike : isNumberToken symbol.token = false) :
    ∀ parts : List Expression, (∀ name ∈ namesOfAll parts, isName name = true) →
      symbol.token ∈ tokensOfAll parts → symbol ∈ operatorsOfAll parts
  | [], _, member => nomatch member
  | first :: rest, named, member => by
      obtain ⟨namedFirst, namedRest⟩ := List.forall_mem_append.mp named
      rcases List.mem_append.mp member with here | there
      · exact List.mem_append_left _ (mem_operators_of_mem_tokens unlike first namedFirst here)
      · exact List.mem_append_right _ (mem_operatorsOfAll unlike rest namedRest there)

end

/-! ## The operators in what is built -/

theorem not_mem_operatorsOfAll {parts : List Expression}
    (absent : ∀ part ∈ parts, symbol ∉ part.operators) : symbol ∉ operatorsOfAll parts := by
  induction parts with
  | nil => exact List.not_mem_nil
  | cons part parts ih =>
      obtain ⟨first, rest⟩ := List.forall_mem_cons.mp absent
      rw [operatorsOfAll, List.mem_append, not_or]
      exact ⟨first, ih rest⟩

@[simp] theorem operators_ofWord (value : Nat) : (ofWord value).operators = [] := by
  rw [ofWord, operators]

@[simp] theorem operators_unary (symbol : Operator) (operand : Expression) :
    (unary symbol operand).operators = operand.operators ++ [symbol] := by
  simp only [unary, operators, operatorsOfAll, List.append_nil]

@[simp] theorem operators_binary (symbol : Operator) (first second : Expression) :
    (binary symbol first second).operators =
      first.operators ++ (second.operators ++ [symbol]) := by
  simp only [binary, operators, operatorsOfAll, List.append_nil]

@[simp] theorem operators_drop (value lower upper : Expression) :
    (drop value lower upper).operators =
      value.operators ++ (lower.operators ++ (upper.operators ++ [.limit])) := by
  simp only [drop, operators, operatorsOfAll, List.append_nil]

/-- A tick compares times and looks for the first sample of a period. -/
theorem not_mem_operators_tick
    (foreign : symbol ∉ [.newYear, .newMonth, .newWeek, .newDay, .time, .modulo, .stepWidth,
      .lessThan, .pop]) {dummy : Expression} (absent : symbol ∉ dummy.operators)
    (granularity : Granularity) : symbol ∉ (granularity.tick dummy).operators := by
  simp only [List.mem_cons, List.not_mem_nil, or_false, not_or] at foreign
  cases granularity <;>
    simp [Granularity.tick, Granularity.boundary, operators, operatorsOfAll, absent, foreign]

variable {linked : Operator} {operands : List Expression} {built : Expression}

/-- The links of a chain are its operands and its own operator. -/
theorem not_mem_links (other : symbol ≠ linked)
    (absent : ∀ operand ∈ operands, symbol ∉ operand.operators) :
    ∀ part ∈ links linked operands, symbol ∉ part.operators := by
  intro part member
  obtain ⟨operand, isOperand, linkage⟩ := List.mem_flatMap.mp member
  rcases List.mem_cons.mp linkage with rfl | linkage
  · exact absent _ isOperand
  · obtain rfl := List.mem_singleton.mp linkage
    exact fun found => other (List.mem_singleton.mp found)

/-- A chain consists of its operands and its own operator. -/
theorem not_mem_operators_chain (chained : chain linked operands = .ok built)
    (other : symbol ≠ linked) (absent : ∀ operand ∈ operands, symbol ∉ operand.operators) :
    symbol ∉ built.operators := by
  unfold chain at chained
  split at chained
  · split at chained
    · exact nomatch chained
    · obtain rfl := Except.ok.inj chained
      exact absent _ List.mem_cons_self
    · obtain rfl := Except.ok.inj chained
      obtain ⟨first, rest⟩ := List.forall_mem_cons.mp absent
      exact not_mem_operatorsOfAll (List.forall_mem_cons.mpr ⟨first, not_mem_links other rest⟩)
  · exact nomatch chained

/-- An average consists of its operands and the operator that averages them. -/
theorem not_mem_operators_average (averaged : average operands = .ok built)
    (other : symbol ≠ .average) (absent : ∀ operand ∈ operands, symbol ∉ operand.operators) :
    symbol ∉ built.operators := by
  unfold average at averaged
  split at averaged
  · exact nomatch averaged
  · obtain rfl := Except.ok.inj averaged
    refine not_mem_operatorsOfAll (List.forall_mem_append.mpr ⟨absent, ?_⟩)
    simp [operators, other]

end MainsCharts.Expression
