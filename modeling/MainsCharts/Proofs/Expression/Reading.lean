import MainsCharts.Expression.Builder
import MainsCharts.Duration
import MainsCharts.Proofs.Expression.Machine

/-!
# Reading a written expression

An expression is written as its tokens with commas between them.  Each token is the
name of a series, a number or an operator (`mem_tokens`), and none of the last two
has a comma in it; so the tokens come back when the text is cut at its commas,
provided that no name has one (`tokensOfText_text`).

The names in an expression are those of its operands.  For what the builders make
they are computed here, so that nobody has to look at tokens again.
-/

namespace MainsCharts.Expression

set_option autoImplicit false

open Numeral Float.Model

mutual

/-- The names of the series in an expression, from left to right. -/
def names : Expression → List String
  | series name => [name]
  | number _ | integer _ | operator _ => []
  | sequence parts => namesOfAll parts

/-- The names of the series in several expressions. -/
def namesOfAll : List Expression → List String
  | [] => []
  | first :: rest => names first ++ namesOfAll rest

end

@[simp] theorem names_series (name : String) : (series name).names = [name] := rfl

@[simp] theorem names_number (value : Float) : (number value).names = [] := rfl

@[simp] theorem names_integer (value : Int) : (integer value).names = [] := rfl

@[simp] theorem names_operator (symbol : Operator) : (operator symbol).names = [] := rfl

@[simp] theorem names_sequence (parts : List Expression) :
    (sequence parts).names = namesOfAll parts := rfl

@[simp] theorem namesOfAll_nil : namesOfAll [] = [] := rfl

@[simp] theorem namesOfAll_cons (first : Expression) (rest : List Expression) :
    namesOfAll (first :: rest) = first.names ++ namesOfAll rest := rfl

/-! ## Tokens -/

/-- Whether a token is a number: a plain numeral, or one of the words for the doubles
without digits. -/
def isNumberToken (token : String) : Bool :=
  ["UNKN", "INF", "NEGINF"].contains token || isPlain token.toList

theorem isNumberToken_of_isPlain {token : String} (shaped : isPlain token.toList = true) :
    isNumberToken token = true := by
  rw [isNumberToken, shaped, Bool.or_true]

theorem isNumberToken_numberToken (value : Float) : isNumberToken (numberToken value) = true := by
  rw [numberToken]
  split
  · decide
  · decide
  · decide
  · rename_i notNaN notPositive notNegative
    rcases isPlain_shortest value with shaped | missing | ⟨sign, infinite⟩
    · apply isNumberToken_of_isPlain
      rwa [shortestText, String.toList_ofList]
    · exact absurd missing notNaN
    · cases sign with
      | positive => exact absurd infinite notPositive
      | negative => exact absurd infinite notNegative

mutual

/-- Each token is the name of a series, a number or an operator. -/
theorem mem_tokens : ∀ (expression : Expression) {token : String}, token ∈ expression.tokens →
    token ∈ expression.names ∨ isNumberToken token = true ∨
      ∃ symbol : Operator, token = symbol.token
  | series _, _, member => .inl member
  | number value, _, member => by
      obtain rfl := List.mem_singleton.mp member
      exact .inr (.inl (isNumberToken_numberToken value))
  | integer value, _, member => by
      obtain rfl := List.mem_singleton.mp member
      exact .inr (.inl (isNumberToken_of_isPlain (isPlain_intRepr value)))
  | operator symbol, _, member => .inr (.inr ⟨symbol, List.mem_singleton.mp member⟩)
  | sequence parts, _, member => mem_tokensOfAll parts member

theorem mem_tokensOfAll : ∀ (parts : List Expression) {token : String},
    token ∈ tokensOfAll parts →
      token ∈ namesOfAll parts ∨ isNumberToken token = true ∨
        ∃ symbol : Operator, token = symbol.token
  | [], _, member => nomatch member
  | first :: rest, _, member => by
      rw [namesOfAll_cons, List.mem_append]
      rcases List.mem_append.mp member with here | there
      · rcases mem_tokens first here with name | other
        · exact .inl (.inl name)
        · exact .inr other
      · rcases mem_tokensOfAll rest there with name | other
        · exact .inl (.inr name)
        · exact .inr other

end

mutual

/-- Each name in an expression is one of its tokens. -/
theorem names_subset_tokens : ∀ expression : Expression, expression.names ⊆ expression.tokens
  | series name => List.Subset.refl [name]
  | number _ | integer _ | operator _ => List.nil_subset _
  | sequence parts => namesOfAll_subset_tokensOfAll parts

theorem namesOfAll_subset_tokensOfAll : ∀ parts : List Expression,
    namesOfAll parts ⊆ tokensOfAll parts
  | [] => List.Subset.refl []
  | first :: rest =>
      List.append_subset.mpr
        ⟨List.subset_append_of_subset_left _ (names_subset_tokens first),
          List.subset_append_of_subset_right _ (namesOfAll_subset_tokensOfAll rest)⟩

end

theorem comma_not_mem_of_isNumberToken {token : String} (number : isNumberToken token = true) :
    ',' ∉ token.toList := by
  rw [isNumberToken, Bool.or_eq_true, List.contains_iff_mem] at number
  rcases number with word | shaped
  · revert token
    decide
  · intro member
    exact absurd (isNumeralCharacter_of_isPlain shaped ',' member) (by decide)

theorem comma_not_mem_token (symbol : Operator) : ',' ∉ symbol.token.toList := by
  cases symbol <;> decide

/-! ## Cutting at the commas -/

/-- What stands between the commas of a text. -/
def tokensOfText (text : List Char) : List String :=
  (text.splitOn ',').map String.ofList

/-- **A written expression is read back token by token**, when no name has a comma. -/
theorem tokensOfText_text {expression : Expression}
    (clean : ∀ name ∈ expression.names, ',' ∉ name.toList) (nonempty : expression.tokens ≠ []) :
    tokensOfText expression.text.toList = expression.tokens := by
  have cleanTokens : ∀ token ∈ expression.tokens, ',' ∉ token.toList := by
    intro token member
    rcases mem_tokens expression member with name | number | ⟨symbol, rfl⟩
    · exact clean token name
    · exact comma_not_mem_of_isNumberToken number
    · exact comma_not_mem_token symbol
  have written :
      expression.text.toList = [','].intercalate (expression.tokens.map String.toList) := by
    rw [text, join, tokensOfAll, tokensOfAll, List.append_nil, String.toList_intercalate]
    rfl
  have cleanTexts : ∀ chars ∈ expression.tokens.map String.toList, ',' ∉ chars := by
    intro chars member
    obtain ⟨token, isToken, rfl⟩ := List.mem_map.mp member
    exact cleanTokens token isToken
  have nonemptyTexts : expression.tokens.map String.toList ≠ [] := by
    rwa [ne_eq, List.map_eq_nil_iff]
  have back : String.ofList ∘ String.toList = id := funext fun _ => String.ofList_toList
  rw [tokensOfText, written, List.splitOn_intercalate ',' cleanTexts nonemptyTexts, List.map_map,
    back, List.map_id]

/-! ## The names in what is built -/

theorem tokens_unary (symbol : Operator) (operand : Expression) :
    (unary symbol operand).tokens = operand.tokens ++ [symbol.token] := by
  simp only [unary, tokens, tokensOfAll, List.append_nil]

theorem tokens_binary (symbol : Operator) (first second : Expression) :
    (binary symbol first second).tokens = first.tokens ++ (second.tokens ++ [symbol.token]) := by
  simp only [binary, tokens, tokensOfAll, List.append_nil]

theorem namesOfAll_append (first second : List Expression) :
    namesOfAll (first ++ second) = namesOfAll first ++ namesOfAll second := by
  induction first with
  | nil => rfl
  | cons expression first ih => simp only [List.cons_append, namesOfAll_cons, ih, List.append_assoc]

/-- Operands with one name each. -/
theorem namesOfAll_map {Index : Type} {operand : Index → Expression} {name : Index → String}
    (single : ∀ index, (operand index).names = [name index]) (indices : List Index) :
    namesOfAll (indices.map operand) = indices.map name := by
  induction indices with
  | nil => rfl
  | cons index indices ih =>
      simp only [List.map_cons, namesOfAll_cons, single, ih, List.singleton_append]

@[simp] theorem names_ofWord (value : Nat) : (ofWord value).names = [] := by
  rw [ofWord, names_integer]

@[simp] theorem names_unary (symbol : Operator) (operand : Expression) :
    (unary symbol operand).names = operand.names := by
  simp [unary]

@[simp] theorem names_binary (symbol : Operator) (first second : Expression) :
    (binary symbol first second).names = first.names ++ second.names := by
  simp [binary]

@[simp] theorem names_drop (value lower upper : Expression) :
    (drop value lower upper).names = value.names ++ (lower.names ++ upper.names) := by
  simp [drop]

@[simp] theorem names_tick (granularity : Granularity) (dummy : Expression) :
    (granularity.tick dummy).names = dummy.names := by
  cases granularity <;> simp [Granularity.tick, Granularity.boundary]

theorem namesOfAll_links (symbol : Operator) (operands : List Expression) :
    namesOfAll (links symbol operands) = namesOfAll operands := by
  induction operands with
  | nil => rfl
  | cons operand operands ih =>
      have split : links symbol (operand :: operands) =
          [operand, .operator symbol] ++ links symbol operands := rfl
      rw [split, namesOfAll_append, ih]
      simp

/-- A chain mentions what its operands mention. -/
theorem names_chain {symbol : Operator} {operands : List Expression} {built : Expression}
    (chained : chain symbol operands = .ok built) : built.names = namesOfAll operands := by
  unfold chain at chained
  split at chained
  · split at chained
    · exact nomatch chained
    · obtain rfl := Except.ok.inj chained
      simp
    · obtain rfl := Except.ok.inj chained
      simp [namesOfAll_links]
  · exact nomatch chained

/-- An average mentions what its operands mention. -/
theorem names_average {operands : List Expression} {built : Expression}
    (averaged : average operands = .ok built) : built.names = namesOfAll operands := by
  unfold average at averaged
  split at averaged
  · exact nomatch averaged
  · obtain rfl := Except.ok.inj averaged
    simp [namesOfAll_append]

end MainsCharts.Expression
