import Mathlib.Logic.Relation
import MainsCharts.Proofs.Expression.Folding
import MainsCharts.Proofs.Numeral.Ordering

/-!
# The leaves of an expression

The leaves of an expression are what it is made of from left to right, without its sequences.  They
are all that is written of it: each leaf is one token, in the same order (`tokens_eq_map_leaves`).

Expressions are regrouped by putting the parts of a sequence in its place, or the other way round;
an empty sequence comes and goes.  This leads from one list of expressions to another exactly when
both have the same leaves (`regroups_iff`), so expressions that differ in their grouping alone are
written alike.

The commas between the tokens are the only ones, unless a name has one.  So the tokens come back
when the text is cut at its commas: there is no piece for an empty sequence, and each number is one
piece, a plain numeral or a word of its own (`text_leaves`).
-/

namespace MainsCharts.Expression

set_option autoImplicit false

open Numeral Float.Model

/-! ## Leaves -/

/-- An expression without parts. -/
inductive Leaf where
  | series (name : String)
  | number (value : Float)
  | integer (value : Int)
  | operator (symbol : Operator)

namespace Leaf

/-- A leaf as an expression. -/
def expression : Leaf → Expression
  | series name => .series name
  | number value => .number value
  | integer value => .integer value
  | operator symbol => .operator symbol

/-- The token of a leaf. -/
def token : Leaf → String
  | series name => name
  | number value => numberToken value
  | integer value => Int.repr value
  | operator symbol => symbol.token

end Leaf

mutual

/-- The leaves of an expression, from left to right. -/
def leaves : Expression → List Leaf
  | series name => [.series name]
  | number value => [.number value]
  | integer value => [.integer value]
  | operator symbol => [.operator symbol]
  | sequence parts => leavesOfAll parts

/-- The leaves of several expressions, one after the other. -/
def leavesOfAll : List Expression → List Leaf
  | [] => []
  | first :: rest => leaves first ++ leavesOfAll rest

end

theorem leavesOfAll_append (first second : List Expression) :
    leavesOfAll (first ++ second) = leavesOfAll first ++ leavesOfAll second := by
  induction first with
  | nil => rfl
  | cons expression first ih => simp only [List.cons_append, leavesOfAll, ih, List.append_assoc]

/-! ## Grouping -/

/-- That one list of expressions becomes another when a sequence makes way for its parts. -/
inductive Opens : List Expression → List Expression → Prop where
  | sequence (before parts after : List Expression) :
      Opens (before ++ .sequence parts :: after) (before ++ (parts ++ after))

/-- That two lists of expressions differ in their grouping alone. -/
def Regroups : List Expression → List Expression → Prop :=
  Relation.EqvGen Opens

theorem Opens.leaves_eq {first second : List Expression} (opens : Opens first second) :
    leavesOfAll first = leavesOfAll second := by
  obtain ⟨before, parts, after⟩ := opens
  simp only [leavesOfAll_append, leavesOfAll, leaves]

theorem Regroups.leaves_eq {first second : List Expression} (regroups : Regroups first second) :
    leavesOfAll first = leavesOfAll second := by
  induction regroups with
  | rel first second opens => exact opens.leaves_eq
  | refl expressions => rfl
  | symm first second _ ih => exact ih.symm
  | trans first second third _ _ ih other => exact ih.trans other

mutual

/-- An expression can be opened up to its leaves, wherever it stands. -/
theorem regroups_leaves : ∀ (expression : Expression) (before after : List Expression),
    Regroups (before ++ expression :: after)
      (before ++ (expression.leaves.map Leaf.expression ++ after))
  | series _, _, _ | number _, _, _ | integer _, _, _ | operator _, _, _ => .refl _
  | sequence parts, before, after =>
      .trans _ _ _ (.rel _ _ (.sequence before parts after))
        (regroups_leavesOfAll parts before after)

theorem regroups_leavesOfAll : ∀ (parts before after : List Expression),
    Regroups (before ++ (parts ++ after))
      (before ++ ((leavesOfAll parts).map Leaf.expression ++ after))
  | [], _, _ => .refl _
  | first :: rest, before, after => by
      have opened := regroups_leaves first before (rest ++ after)
      have others :=
        regroups_leavesOfAll rest (before ++ first.leaves.map Leaf.expression) after
      rw [leavesOfAll, List.map_append, List.cons_append]
      simp only [List.append_assoc] at opened others ⊢
      exact .trans _ _ _ opened others

end

/-- **Expressions differ in their grouping alone** exactly when they have the same leaves. -/
theorem regroups_iff {first second : List Expression} :
    Regroups first second ↔ leavesOfAll first = leavesOfAll second := by
  refine ⟨Regroups.leaves_eq, ?_⟩
  intro same
  have opened (expressions : List Expression) :
      Regroups expressions ((leavesOfAll expressions).map Leaf.expression) := by
    have wherever := regroups_leavesOfAll expressions [] []
    rwa [List.nil_append, List.nil_append, List.append_nil, List.append_nil] at wherever
  refine .trans _ _ _ (opened first) ?_
  rw [same]
  exact .symm _ _ (opened second)

/-! ## Tokens -/

mutual

/-- **The tokens of an expression** are those of its leaves. -/
theorem tokens_eq_map_leaves : ∀ expression : Expression,
    expression.tokens = expression.leaves.map Leaf.token
  | series _ | number _ | integer _ | operator _ => rfl
  | sequence parts => tokensOfAll_eq_map_leaves parts

theorem tokensOfAll_eq_map_leaves : ∀ parts : List Expression,
    tokensOfAll parts = (leavesOfAll parts).map Leaf.token
  | [] => rfl
  | first :: rest => by
      rw [tokensOfAll, leavesOfAll, List.map_append, tokens_eq_map_leaves first,
        tokensOfAll_eq_map_leaves rest]

end

theorem text_eq_of_leaves_eq {first second : Expression} (same : first.leaves = second.leaves) :
    first.text = second.text := by
  rw [text_eq_intercalate, text_eq_intercalate, tokens_eq_map_leaves, tokens_eq_map_leaves, same]

/-- How a number is written: in a word of its own when it has no digits, and otherwise as a plain
numeral. -/
inductive WritesNumber : Float → String → Prop where
  | missing {value : Float} : value.isNaN = true → WritesNumber value "UNKN"
  | greatest {value : Float} : value.isInf = true → 0.0 < value → WritesNumber value "INF"
  | least {value : Float} : value.isInf = true → value < 0.0 → WritesNumber value "NEGINF"
  | plain {value : Float} : value.isFinite = true → isPlain (shortest value) = true →
      WritesNumber value (shortestText value)

theorem writesNumber_numberToken (value : Float) : WritesNumber value (numberToken value) := by
  have isZero := extendedValue?_of_exact exactValue?_zero
  rcases kind_cases value with missing | ⟨sign, infinite⟩ | ⟨number, isNumber⟩
  · have word : numberToken value = "UNKN" := by rw [numberToken, missing]
    rw [word]
    exact .missing (congrArg UnpackedFloat.isNaN missing)
  · have isEnding := extendedValue?_of_infinity infinite
    have isInfinite : value.isInf = true := congrArg UnpackedFloat.isInf infinite
    cases sign with
    | positive =>
        have word : numberToken value = "INF" := by rw [numberToken, infinite]
        rw [word]
        exact .greatest isInfinite
          ((lt_iff_extended isZero isEnding).mpr (WithBotTop.coe_ne_top 0).lt_top)
    | negative =>
        have word : numberToken value = "NEGINF" := by rw [numberToken, infinite]
        rw [word]
        exact .least isInfinite
          ((lt_iff_extended isEnding isZero).mpr (WithBotTop.coe_ne_bot 0).bot_lt)
  · have numeral : numberToken value = shortestText value := by
      rcases finite_cases isNumber with ⟨sign, kind, -⟩ | ⟨sign, mantissa, exponent, _, kind, -⟩ <;>
        rw [numberToken, kind]
    rw [numeral]
    refine .plain (isFinite_iff.mpr ⟨number, isNumber⟩) ?_
    rcases isPlain_shortest value with shaped | missing | ⟨sign, infinite⟩
    · exact shaped
    · rw [exactValue?, missing] at isNumber
      exact absurd isNumber.symm (Option.some_ne_none number)
    · rw [exactValue?, infinite] at isNumber
      exact absurd isNumber.symm (Option.some_ne_none number)

/-- Only a name can be an empty token. -/
theorem empty_mem_tokens {expression : Expression} (member : "" ∈ expression.tokens) :
    "" ∈ expression.names := by
  rcases mem_tokens expression member with name | number | ⟨symbol, same⟩
  · exact name
  · exact absurd number (by decide)
  · cases symbol <;> exact absurd same (by decide)

/-! ## Texts -/

/-- Several expressions are written as their tokens, with commas between them. -/
theorem join_append (first second : List Expression) :
    join (first ++ second) =
      ",".intercalate (first.flatMap tokens ++ second.flatMap tokens) := by
  rw [join, tokensOfAll_eq, List.flatMap_append]

/-- **An expression is written leaf by leaf.**  Its tokens are those of its leaves, whatever its
grouping, and a text of several expressions has the tokens of one after those of the other.  When no
name has a comma and there is a token at all, the pieces between the commas of the text are the
tokens: none is empty but for a name that is, and a number is one piece, which is a plain numeral or
the word for a double without digits. -/
theorem text_leaves (expression : Expression) :
    expression.tokens = expression.leaves.map Leaf.token ∧
    expression.text = join [expression] ∧
    (∀ other : Expression,
      (Regroups [other] [expression] ↔ other.leaves = expression.leaves) ∧
      (other.leaves = expression.leaves → other.text = expression.text)) ∧
    (∀ first second : List Expression, join (first ++ second) =
      ",".intercalate (first.flatMap tokens ++ second.flatMap tokens)) ∧
    ((∀ name ∈ expression.names, ',' ∉ name.toList) → expression.tokens ≠ [] →
      tokensOfText expression.text.toList = expression.tokens ∧
      ("" ∈ tokensOfText expression.text.toList → "" ∈ expression.names)) ∧
    (∀ value : Float, WritesNumber value (Leaf.number value).token) ∧
    (∀ value : Int, isPlain (Leaf.integer value).token.toList = true) := by
  refine ⟨tokens_eq_map_leaves expression, rfl, ?_, join_append, ?_, writesNumber_numberToken,
    isPlain_intRepr⟩
  · intro other
    have alone (expression : Expression) : leavesOfAll [expression] = expression.leaves := by
      rw [leavesOfAll, leavesOfAll, List.append_nil]
    exact ⟨by rw [regroups_iff, alone, alone], text_eq_of_leaves_eq⟩
  · intro clean nonempty
    rw [tokensOfText_text clean nonempty]
    exact ⟨rfl, empty_mem_tokens⟩

/-- A comparison with empty sequences in it. -/
def comparison : Expression :=
  .sequence [.sequence [], .series "r_min", .sequence [.integer (-5), .sequence []],
    .operator .lessThan]

/-- The comparison as it is cut at its commas. -/
theorem text_leaves_comparison :
    (∀ name ∈ comparison.names, ',' ∉ name.toList) ∧ comparison.tokens ≠ [] ∧
    tokensOfText comparison.text.toList = ["r_min", "-5", "LT"] := by
  have named : comparison.names = ["r_min"] := rfl
  have written : comparison.tokens = ["r_min", "-5", "LT"] := rfl
  have clean : ∀ name ∈ comparison.names, ',' ∉ name.toList := by
    rw [named]
    simp
  have nonempty : comparison.tokens ≠ [] := by
    rw [written]
    exact List.cons_ne_nil _ _
  have reads := (text_leaves comparison).2.2.2.2.1 clean nonempty
  exact ⟨clean, nonempty, reads.1.trans written⟩

end MainsCharts.Expression
