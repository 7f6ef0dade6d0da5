import MainsCharts.Proofs.Expression.Reading
import Mathlib.Data.List.Forall2
import Mathlib.Data.Option.NAry
import Mathlib.Order.MinMax
import Std.Data.String.ToNat

/-!
# What the builders of expressions compute

The builders put the tokens of their operands side by side and add operators.
When each operand yields a value, so does what is built from them, and the value
is the one that the builder is named for: a chain folds its operator over the
values from the left (`yields_chain`), an average is taken of exactly the values
of its operands (`yields_average`), a tick is the boundary and nothing of its dummy
(`yields_tick`).  This holds in any domain of values and whatever the operators
mean, for operands that are themselves built in any way.

The domain enters in one place only.  The number of operands of an average is
written as a numeral, and the domain has to read that numeral as that number.

Over ordered quantities with an unknown one, the operators that compare have their
usual meaning, and two builders get the meaning they were made for: `drop` keeps a
value inside its range and forgets it outside (`limited`), and `fit` moves
it to the nearer end (`fitted_of_known`).
-/

namespace MainsCharts

set_option autoImplicit false

open Numeral

universe u v

namespace Expression

theorem tokensOfAll_append (first second : List Expression) :
    tokensOfAll (first ++ second) = tokensOfAll first ++ tokensOfAll second := by
  induction first with
  | nil => rfl
  | cons expression first ih => simp only [List.cons_append, tokensOfAll, ih, List.append_assoc]

/-- The token of a whole number that sixty-four bits can hold with a sign. -/
theorem tokens_ofWord {value : Nat} (fits : value ≤ greatestSigned) :
    (ofWord value).tokens = [Nat.repr value] := by
  have same : asSigned value = (value : Int) := by
    simp only [asSigned, greatestSigned, greatestWord] at *
    rw [Int.bmod_eq_of_le] <;> omega
  simp only [ofWord, tokens, same]
  rfl

end Expression

namespace Meaning

variable {Value : Type u} {meaning : Meaning Value}

/-! ## One value after another -/

/-- Operands side by side push their values one after the other. -/
theorem run_operands {operands : List Expression} {values : List Value}
    (yields : List.Forall₂ meaning.Yields operands values) (stack : List Value) :
    meaning.run (Expression.tokensOfAll operands) stack = some (values.reverse ++ stack) := by
  induction yields generalizing stack with
  | nil => rfl
  | @cons operand value operands values first _ ih =>
      rw [Expression.tokensOfAll, run_append, first, Option.bind_some, ih, List.reverse_cons,
        List.append_assoc, List.singleton_append]

/-- An operator of fixed arity behind its operands. -/
theorem yields_combined {symbol : Operator} {operands : List Expression} (values : List Value)
    (effect : symbol.effect = .combines values.length)
    (yields : List.Forall₂ meaning.Yields operands values) :
    meaning.Yields (.sequence (operands ++ [.operator symbol])) (meaning.apply symbol values) := by
  intro stack
  have performed : meaning.perform symbol (values.reverse ++ stack) =
      some (meaning.apply symbol values :: stack) := by
    rw [perform_combines effect]
    exact combine_pushed symbol values stack
  simp only [Expression.tokens, Expression.tokensOfAll_append, Expression.tokensOfAll,
    List.append_nil, run_append, run_operands yields, Option.bind_some, run_cons, step_operator,
    performed, run_nil]

theorem yields_constant {symbol : Operator} (effect : symbol.effect = .combines 0) :
    meaning.Yields (.operator symbol) (meaning.apply symbol []) := by
  intro stack
  exact yields_combined [] effect .nil stack

theorem yields_unary {symbol : Operator} {operand : Expression} {value : Value}
    (effect : symbol.effect = .combines 1) (yields : meaning.Yields operand value) :
    meaning.Yields (.unary symbol operand) (meaning.apply symbol [value]) :=
  yields_combined [value] effect (.cons yields .nil)

theorem yields_binary {symbol : Operator} {first second : Expression} {left right : Value}
    (effect : symbol.effect = .combines 2) (yieldsFirst : meaning.Yields first left)
    (yieldsSecond : meaning.Yields second right) :
    meaning.Yields (.binary symbol first second) (meaning.apply symbol [left, right]) :=
  yields_combined [left, right] effect (.cons yieldsFirst (.cons yieldsSecond .nil))

/-- How operands and operators are grouped does not matter. -/
theorem Yields.of_tokens_eq {grouped other : Expression} {value : Value}
    (yields : meaning.Yields grouped value) (same : other.tokens = grouped.tokens) :
    meaning.Yields other value := by
  intro stack
  rw [same]
  exact yields stack

/-! ## Operands by themselves -/

theorem yields_series {name : String} (plain : Operator.ofToken? name = none) :
    meaning.Yields (.series name) (meaning.operand name) := by
  intro stack
  simp only [Expression.tokens, run_cons, step_operand plain, Option.bind_some, run_nil]

/-- A whole number pushes the value of its numeral. -/
theorem yields_ofWord {value : Nat} (fits : value ≤ greatestSigned) :
    meaning.Yields (.ofWord value) (meaning.operand (Nat.repr value)) := by
  intro stack
  have plain : Operator.ofToken? (Nat.repr value) = none :=
    Operator.ofToken?_eq_none_of_isPlain (isPlain_natRepr value)
  simp only [Expression.tokens_ofWord fits, run_cons, step_operand plain, Option.bind_some,
    run_nil]

/-! ## Chains and averages -/

/-- Further links of a chain fold their values onto the one that is there. -/
theorem run_links {symbol : Operator} (effect : symbol.effect = .combines 2)
    {operands : List Expression} {values : List Value}
    (yields : List.Forall₂ meaning.Yields operands values) (folded : Value) (stack : List Value) :
    meaning.run (Expression.tokensOfAll (Expression.links symbol operands)) (folded :: stack) =
      some (values.foldl (fun left right => meaning.apply symbol [left, right]) folded ::
        stack) := by
  induction yields generalizing folded with
  | nil => rfl
  | @cons operand value operands values first _ ih =>
      have linked : meaning.perform symbol (value :: folded :: stack) =
          some (meaning.apply symbol [folded, value] :: stack) := by
        rw [perform_combines effect]
        exact combine_pushed symbol [folded, value] stack
      have split : Expression.links symbol (operand :: operands) =
          [operand, .operator symbol] ++ Expression.links symbol operands := rfl
      rw [split, Expression.tokensOfAll_append, run_append, Expression.tokensOfAll, run_append,
        first, Option.bind_some]
      simp only [Expression.tokensOfAll, Expression.tokens, List.append_nil, run_cons,
        step_operator, linked, Option.bind_some, run_nil, List.foldl_cons]
      exact ih (meaning.apply symbol [folded, value])

theorem effect_of_isAssociative {symbol : Operator} (associative : symbol.isAssociative = true) :
    symbol.effect = .combines 2 := by
  cases symbol <;> first | rfl | exact Bool.noConfusion associative

/-- **A chain folds its operator over the values from the left.** -/
theorem yields_chain {symbol : Operator} (associative : symbol.isAssociative = true)
    {first : Expression} {rest : List Expression} {value : Value} {values : List Value}
    (yieldsFirst : meaning.Yields first value)
    (yieldsRest : List.Forall₂ meaning.Yields rest values) :
    ∃ built, Expression.chain symbol (first :: rest) = .ok built ∧
      meaning.Yields built
        (values.foldl (fun left right => meaning.apply symbol [left, right]) value) := by
  have effect := effect_of_isAssociative associative
  cases yieldsRest with
  | nil =>
      exact ⟨first, by simp only [Expression.chain, if_pos associative], yieldsFirst⟩
  | @cons operand other operands others yieldsOperand yieldsOthers =>
      refine ⟨.sequence (first :: Expression.links symbol (operand :: operands)), ?_, ?_⟩
      · simp only [Expression.chain, if_pos associative]
      · intro stack
        rw [Expression.tokens, Expression.tokensOfAll, run_append, yieldsFirst, Option.bind_some]
        exact run_links effect (.cons yieldsOperand yieldsOthers) value stack

/-- **An average is taken of the values of its operands, all of them and no other.** -/
theorem yields_average {operands : List Expression} {values : List Value}
    (nonempty : operands ≠ []) (fits : operands.length ≤ greatestSigned)
    (counted : meaning.count? (meaning.operand (Nat.repr operands.length)) =
      some operands.length)
    (yields : List.Forall₂ meaning.Yields operands values) :
    ∃ built, Expression.average operands = .ok built ∧
      meaning.Yields built (meaning.apply .average values) := by
  refine ⟨.sequence (operands ++ [.ofWord operands.length, .operator .average]), ?_, ?_⟩
  · rw [Expression.average, if_neg (by simpa using nonempty)]
  · intro stack
    have averaged : meaning.perform .average
        (meaning.operand (Nat.repr operands.length) :: (values.reverse ++ stack)) =
          some (meaning.apply .average values :: stack) := by
      rw [perform_average counted, yields.length_eq]
      exact combine_pushed .average values stack
    rw [Expression.tokens, Expression.tokensOfAll_append, run_append, run_operands yields,
      Option.bind_some, Expression.tokensOfAll, run_append, yields_ofWord fits, Option.bind_some]
    simp only [Expression.tokensOfAll, Expression.tokens, List.append_nil, run_cons,
      step_operator, averaged, Option.bind_some, run_nil]

/-! ## Ticks, ranges and clamps -/

/-- The boundary of a calendar period has a value of its own. -/
theorem yields_boundary (granularity : Granularity) :
    ∃ value, meaning.Yields granularity.boundary value := by
  cases granularity with
  | year | month | week | day => exact ⟨_, yields_constant rfl⟩
  | hour =>
      -- The five tokens are those of a comparison whose first operand is a remainder.
      have fits : Duration.hour ≤ greatestSigned := by decide
      have past : meaning.Yields (.binary .modulo (.operator .time) (.ofWord Duration.hour)) _ :=
        yields_binary rfl (yields_constant rfl) (yields_ofWord fits)
      have step : meaning.Yields (.operator .stepWidth) _ := yields_constant rfl
      have early : meaning.Yields (.binary .lessThan _ (.operator .stepWidth)) _ :=
        yields_binary rfl past step
      exact ⟨_, early⟩

/-- **A tick has the value of its boundary, and its dummy leaves nothing.** -/
theorem yields_tick {granularity : Granularity} {dummy : Expression} {value discarded : Value}
    (yieldsBoundary : meaning.Yields granularity.boundary value)
    (yieldsDummy : meaning.Yields dummy discarded) :
    meaning.Yields (granularity.tick dummy) value := by
  intro stack
  rw [Granularity.tick, Expression.tokens, Expression.tokensOfAll, run_append, yieldsBoundary,
    Option.bind_some, Expression.tokensOfAll, run_append, yieldsDummy, Option.bind_some]
  simp only [Expression.tokensOfAll, Expression.tokens, List.append_nil, run_cons, step_operator]
  rfl

/-- **A range test takes the value, the lower and the upper end in this order.** -/
theorem yields_drop {value lower upper : Expression} {tested low high : Value}
    (yieldsValue : meaning.Yields value tested) (yieldsLower : meaning.Yields lower low)
    (yieldsUpper : meaning.Yields upper high) :
    meaning.Yields (.drop value lower upper) (meaning.apply .limit [tested, low, high]) :=
  yields_combined [tested, low, high] rfl
    (.cons yieldsValue (.cons yieldsLower (.cons yieldsUpper .nil)))

/-- A clamp is a maximum of a minimum. -/
theorem tokens_fit (value lower upper : Expression) (tolerant : Bool) :
    (Expression.fit value lower upper tolerant).tokens =
      (Expression.binary (if tolerant then .maximumKnown else .maximum)
        (.binary (if tolerant then .minimumKnown else .minimum) value upper) lower).tokens := by
  cases tolerant <;>
    simp only [Expression.fit, Expression.binary, Expression.tokens, Expression.tokensOfAll,
      List.append_assoc, List.cons_append, List.nil_append, List.append_nil] <;> rfl

/-- **A clamp takes the upper end first and the lower end last.** -/
theorem yields_fit {value lower upper : Expression} {tested low high : Value} (tolerant : Bool)
    (yieldsValue : meaning.Yields value tested) (yieldsLower : meaning.Yields lower low)
    (yieldsUpper : meaning.Yields upper high) :
    meaning.Yields (.fit value lower upper tolerant)
      (meaning.apply (if tolerant then .maximumKnown else .maximum)
        [meaning.apply (if tolerant then .minimumKnown else .minimum) [tested, high], low]) := by
  cases tolerant with
  | false =>
      have least : meaning.Yields (.binary .minimum value upper) _ :=
        yields_binary rfl yieldsValue yieldsUpper
      have greatest : meaning.Yields (.binary .maximum _ lower) _ :=
        yields_binary rfl least yieldsLower
      exact greatest.of_tokens_eq (tokens_fit value lower upper false)
  | true =>
      have least : meaning.Yields (.binary .minimumKnown value upper) _ :=
        yields_binary rfl yieldsValue yieldsUpper
      have greatest : meaning.Yields (.binary .maximumKnown _ lower) _ :=
        yields_binary rfl least yieldsLower
      exact greatest.of_tokens_eq (tokens_fit value lower upper true)

/-! ## Balanced operands -/

theorem balanced_series {name : String} (plain : Operator.ofToken? name = none) :
    meaning.Balanced (.series name) :=
  (yields_series plain).balanced

theorem balanced_integer (value : Int) : meaning.Balanced (.integer value) := by
  intro stack
  have plain : Operator.ofToken? (Int.repr value) = none :=
    Operator.ofToken?_eq_none_of_isPlain (isPlain_intRepr value)
  refine ⟨meaning.operand (Int.repr value), ?_⟩
  simp only [Expression.tokens, run_cons, step_operand plain, Option.bind_some, run_nil]

/-- A number pushes one value, also when it has no digits. -/
theorem balanced_number (value : Float) : meaning.Balanced (.number value) := by
  intro stack
  rw [Expression.tokens]
  have pushed (plain : Operator.ofToken? (Expression.numberToken value) = none) :
      ∃ result, meaning.run [Expression.numberToken value] stack = some (result :: stack) := by
    refine ⟨meaning.operand (Expression.numberToken value), ?_⟩
    simp only [run_cons, step_operand plain, Option.bind_some, run_nil]
  have number := Expression.isNumberToken_numberToken value
  rw [Expression.isNumberToken, Bool.or_eq_true, List.contains_iff_mem] at number
  rcases number with word | shaped
  · simp only [List.mem_cons, List.not_mem_nil, or_false] at word
    rcases word with unknown | infinite | infinite
    · -- The word for the unknown is an operator that takes nothing.
      have constant : meaning.Yields (.operator .unknown) _ := yields_constant rfl
      rw [unknown]
      exact constant.balanced stack
    · exact pushed (by rw [infinite]; decide)
    · exact pushed (by rw [infinite]; decide)
  · exact pushed (Operator.ofToken?_eq_none_of_isPlain shaped)

theorem Balanced.unary {symbol : Operator} {operand : Expression}
    (balanced : meaning.Balanced operand) (effect : symbol.effect = .combines 1) :
    meaning.Balanced (.unary symbol operand) := by
  obtain ⟨value, yields⟩ := balanced_iff.mp balanced
  exact (yields_unary effect yields).balanced

theorem Balanced.binary {symbol : Operator} {first second : Expression}
    (balancedFirst : meaning.Balanced first) (balancedSecond : meaning.Balanced second)
    (effect : symbol.effect = .combines 2) :
    meaning.Balanced (.binary symbol first second) := by
  obtain ⟨left, yieldsFirst⟩ := balanced_iff.mp balancedFirst
  obtain ⟨right, yieldsSecond⟩ := balanced_iff.mp balancedSecond
  exact (yields_binary effect yieldsFirst yieldsSecond).balanced

theorem Balanced.drop {value lower upper : Expression} (balancedValue : meaning.Balanced value)
    (balancedLower : meaning.Balanced lower) (balancedUpper : meaning.Balanced upper) :
    meaning.Balanced (.drop value lower upper) := by
  obtain ⟨tested, yieldsValue⟩ := balanced_iff.mp balancedValue
  obtain ⟨low, yieldsLower⟩ := balanced_iff.mp balancedLower
  obtain ⟨high, yieldsUpper⟩ := balanced_iff.mp balancedUpper
  exact (yields_drop yieldsValue yieldsLower yieldsUpper).balanced

theorem Balanced.tick {dummy : Expression} (balanced : meaning.Balanced dummy)
    (granularity : Granularity) : meaning.Balanced (granularity.tick dummy) := by
  obtain ⟨discarded, yieldsDummy⟩ := balanced_iff.mp balanced
  obtain ⟨value, yieldsBoundary⟩ := yields_boundary granularity
  exact (yields_tick yieldsBoundary yieldsDummy).balanced

theorem exists_values {operands : List Expression}
    (balanced : ∀ operand ∈ operands, meaning.Balanced operand) :
    ∃ values, List.Forall₂ meaning.Yields operands values := by
  induction operands with
  | nil => exact ⟨[], .nil⟩
  | cons operand operands ih =>
      obtain ⟨here, others⟩ := List.forall_mem_cons.mp balanced
      obtain ⟨value, yields⟩ := balanced_iff.mp here
      obtain ⟨values, yieldsOthers⟩ := ih others
      exact ⟨value :: values, .cons yields yieldsOthers⟩

theorem balanced_chain {symbol : Operator} {operands : List Expression} {built : Expression}
    (chained : Expression.chain symbol operands = .ok built)
    (balanced : ∀ operand ∈ operands, meaning.Balanced operand) : meaning.Balanced built := by
  cases associative : symbol.isAssociative with
  | false =>
      exact nomatch (if_neg (by rw [associative]; exact Bool.false_ne_true)).symm.trans chained
  | true =>
      obtain ⟨values, yields⟩ := exists_values balanced
      cases yields with
      | nil =>
          rw [Expression.chain, if_pos associative] at chained
          exact nomatch chained
      | cons yieldsFirst yieldsRest =>
          obtain ⟨other, isOther, yieldsOther⟩ := yields_chain associative yieldsFirst yieldsRest
          obtain rfl := Except.ok.inj (chained.symm.trans isOther)
          exact yieldsOther.balanced

theorem balanced_average {operands : List Expression} {built : Expression}
    (averaged : Expression.average operands = .ok built)
    (fits : operands.length ≤ greatestSigned)
    (counted : meaning.count? (meaning.operand (Nat.repr operands.length)) =
      some operands.length)
    (balanced : ∀ operand ∈ operands, meaning.Balanced operand) : meaning.Balanced built := by
  have nonempty : operands ≠ [] := by
    rintro rfl
    exact nomatch averaged
  obtain ⟨values, yields⟩ := exists_values balanced
  obtain ⟨other, isOther, yieldsOther⟩ := yields_average nonempty fits counted yields
  obtain rfl := Except.ok.inj (averaged.symm.trans isOther)
  exact yieldsOther.balanced

/-! ## Ordered quantities with an unknown one -/

section Ordered

variable {Quantity : Type v} [LinearOrder Quantity]

/-- A value that lies between two ends, and unknown when it does not or when one of
the three is unknown. -/
def limited : Option Quantity → Option Quantity → Option Quantity → Option Quantity
  | some value, some lower, some upper =>
      if lower ≤ value ∧ value ≤ upper then some value else none
  | _, _, _ => none

/-- The operators that compare, with their meaning for ordered quantities.  Of the two
kinds of minimum and maximum one is unknown when either operand is, and the other
ignores an unknown operand. -/
def ordered (others : Meaning (Option Quantity)) : Meaning (Option Quantity) where
  operand := others.operand
  apply
    | .limit, [value, lower, upper] => limited value lower upper
    | .minimum, [first, second] => Option.map₂ min first second
    | .maximum, [first, second] => Option.map₂ max first second
    | .minimumKnown, [first, second] => Option.merge min first second
    | .maximumKnown, [first, second] => Option.merge max first second
    | symbol, values => others.apply symbol values
  count? := others.count?

/-- A value clamped to a range, of which each side may be unknown. -/
def fitted (tolerant : Bool) (value lower upper : Option Quantity) : Option Quantity :=
  if tolerant then Option.merge max (Option.merge min value upper) lower
  else Option.map₂ max (Option.map₂ min value upper) lower

theorem limited_of_unknown {value lower upper : Option Quantity}
    (unknown : value = none ∨ lower = none ∨ upper = none) : limited value lower upper = none := by
  rcases unknown with rfl | rfl | rfl
  · rfl
  · cases value <;> rfl
  · cases value <;> cases lower <;> rfl

theorem fitted_of_unknown {value lower upper : Option Quantity}
    (unknown : value = none ∨ lower = none ∨ upper = none) :
    fitted false value lower upper = none := by
  rcases unknown with rfl | rfl | rfl
  · rfl
  · exact Option.map₂_none_right _ _
  · cases value <;> rfl

/-- A clamped value lies in its range: it is not moved when it was there already, and
otherwise moved to the nearer end. -/
theorem fitted_of_known (tolerant : Bool) (value : Quantity) {lower upper : Quantity}
    (range : lower ≤ upper) :
    ∃ result, fitted tolerant (some value) (some lower) (some upper) = some result ∧
      lower ≤ result ∧ result ≤ upper ∧ (lower ≤ value → value ≤ upper → result = value) ∧
      (value ≤ lower → result = lower) ∧ (upper ≤ value → result = upper) := by
  refine ⟨max (min value upper) lower, ?_, le_max_right _ _, ?_, ?_, ?_, ?_⟩
  · cases tolerant <;> rfl
  · exact max_le (min_le_right _ _) range
  · intro above below
    rw [min_eq_left below, max_eq_left above]
  · intro below
    exact max_eq_right ((min_le_left _ _).trans below)
  · intro above
    rw [min_eq_right above, max_eq_left range]

variable {others : Meaning (Option Quantity)}

theorem yields_drop_ordered {value lower upper : Expression} {tested low high : Option Quantity}
    (yieldsValue : (ordered others).Yields value tested)
    (yieldsLower : (ordered others).Yields lower low)
    (yieldsUpper : (ordered others).Yields upper high) :
    (ordered others).Yields (.drop value lower upper) (limited tested low high) :=
  yields_drop yieldsValue yieldsLower yieldsUpper

theorem yields_fit_ordered {value lower upper : Expression} {tested low high : Option Quantity}
    (tolerant : Bool) (yieldsValue : (ordered others).Yields value tested)
    (yieldsLower : (ordered others).Yields lower low)
    (yieldsUpper : (ordered others).Yields upper high) :
    (ordered others).Yields (.fit value lower upper tolerant)
      (fitted tolerant tested low high) := by
  have built := yields_fit tolerant yieldsValue yieldsLower yieldsUpper
  cases tolerant with
  | false => exact built
  | true => exact built

/-- A tolerant clamp of a known value ignores the ends that are unknown. -/
theorem fitted_tolerant (value : Quantity) (lower upper : Option Quantity) :
    fitted true (some value) none upper = some (upper.elim value (min value)) ∧
      fitted true (some value) lower none = some (lower.elim value (max value)) := by
  constructor
  · cases upper <;> rfl
  · cases lower <;> rfl

end Ordered

/-! ## The builders together -/

/-- **The builders compile to postfix.**  In every domain, whatever the operators mean
there, operands that push one value each are built into an expression that pushes one
value: the fold of a chain, the average of exactly the operands, the boundary of a tick,
the range test and the clamp of their three operands in order.  A list has fewer than
`2 ^ 63` elements, and the domain reads the numeral of that count.

Over ordered quantities with an unknown one, `drop` keeps what lies in the range and
forgets the rest, and `fit` moves a value into the range and leaves it when it is there.
Unknown operands make both unknown, except that a tolerant `fit` ignores unknown ends. -/
theorem builders_compile {Value : Type u} (meaning : Meaning Value) {Quantity : Type v}
    [LinearOrder Quantity] (others : Meaning (Option Quantity)) :
    (∀ expression, meaning.Balanced expression ↔
      ∃ value, meaning.Yields expression value) ∧
    (∀ (symbol : Operator) first rest value values, symbol.isAssociative = true →
      meaning.Yields first value → List.Forall₂ meaning.Yields rest values →
      ∃ built, Expression.chain symbol (first :: rest) = .ok built ∧
        meaning.Yields built
          (values.foldl (fun left right => meaning.apply symbol [left, right]) value)) ∧
    (∀ operands values, operands ≠ [] → operands.length ≤ greatestSigned →
      meaning.count? (meaning.operand (Nat.repr operands.length)) = some operands.length →
      List.Forall₂ meaning.Yields operands values →
      ∃ built, Expression.average operands = .ok built ∧
        meaning.Yields built (meaning.apply .average values)) ∧
    (∀ (granularity : Granularity) dummy discarded, meaning.Yields dummy discarded →
      ∃ value, meaning.Yields granularity.boundary value ∧
        meaning.Yields (granularity.tick dummy) value) ∧
    (∀ value lower upper tested low high, meaning.Yields value tested →
      meaning.Yields lower low → meaning.Yields upper high →
      meaning.Yields (.drop value lower upper) (meaning.apply .limit [tested, low, high]) ∧
      ∀ tolerant, meaning.Yields (.fit value lower upper tolerant)
        (meaning.apply (if tolerant then .maximumKnown else .maximum)
          [meaning.apply (if tolerant then .minimumKnown else .minimum) [tested, high], low])) ∧
    (∀ value lower upper (tested low high : Quantity),
      (ordered others).Yields value (some tested) → (ordered others).Yields lower (some low) →
      (ordered others).Yields upper (some high) →
      (ordered others).Yields (.drop value lower upper)
        (if low ≤ tested ∧ tested ≤ high then some tested else none) ∧
      (low ≤ high → ∀ tolerant, ∃ result,
        (ordered others).Yields (.fit value lower upper tolerant) (some result) ∧
          low ≤ result ∧ result ≤ high ∧ (low ≤ tested → tested ≤ high → result = tested) ∧
          (tested ≤ low → result = low) ∧ (high ≤ tested → result = high))) ∧
    (∀ value lower upper (tested low high : Option Quantity),
      (ordered others).Yields value tested → (ordered others).Yields lower low →
      (ordered others).Yields upper high → tested = none ∨ low = none ∨ high = none →
      (ordered others).Yields (.drop value lower upper) none ∧
      (ordered others).Yields (.fit value lower upper false) none) ∧
    (∀ value lower upper (tested : Quantity) (low high : Option Quantity),
      (ordered others).Yields value (some tested) → (ordered others).Yields lower low →
      (ordered others).Yields upper high →
      (low = none → (ordered others).Yields (.fit value lower upper true)
        (some (high.elim tested (min tested)))) ∧
      (high = none → (ordered others).Yields (.fit value lower upper true)
        (some (low.elim tested (max tested))))) := by
  refine ⟨fun _ => balanced_iff, ?_, ?_, ?_, ?_, ?_, ?_, ?_⟩
  · intro symbol first rest value values associative yieldsFirst yieldsRest
    exact yields_chain associative yieldsFirst yieldsRest
  · intro operands values nonempty fits counted yields
    exact yields_average nonempty fits counted yields
  · intro granularity dummy discarded yieldsDummy
    obtain ⟨value, yieldsBoundary⟩ := yields_boundary granularity
    exact ⟨value, yieldsBoundary, yields_tick yieldsBoundary yieldsDummy⟩
  · intro value lower upper tested low high yieldsValue yieldsLower yieldsUpper
    exact ⟨yields_drop yieldsValue yieldsLower yieldsUpper,
      fun tolerant => yields_fit tolerant yieldsValue yieldsLower yieldsUpper⟩
  · intro value lower upper tested low high yieldsValue yieldsLower yieldsUpper
    refine ⟨yields_drop_ordered yieldsValue yieldsLower yieldsUpper, ?_⟩
    intro range tolerant
    obtain ⟨result, clamped, inside⟩ := fitted_of_known tolerant tested range
    refine ⟨result, ?_, inside⟩
    rw [← clamped]
    exact yields_fit_ordered tolerant yieldsValue yieldsLower yieldsUpper
  · intro value lower upper tested low high yieldsValue yieldsLower yieldsUpper unknown
    have dropped := yields_drop_ordered yieldsValue yieldsLower yieldsUpper
    have clamped := yields_fit_ordered false yieldsValue yieldsLower yieldsUpper
    rw [limited_of_unknown unknown] at dropped
    rw [fitted_of_unknown unknown] at clamped
    exact ⟨dropped, clamped⟩
  · intro value lower upper tested low high yieldsValue yieldsLower yieldsUpper
    have clamped := yields_fit_ordered true yieldsValue yieldsLower yieldsUpper
    obtain ⟨withoutLower, withoutUpper⟩ := fitted_tolerant tested low high
    constructor
    · rintro rfl
      exact withoutLower ▸ clamped
    · rintro rfl
      exact withoutUpper ▸ clamped

/-- Natural numbers with an unknown one, their sum and their average. -/
def naturals : Meaning (Option Nat) where
  operand token := token.toNat?
  apply
    | .add, [some first, some second] => some (first + second)
    | .average, values => (values.mapM id).map fun known => known.foldl (· + ·) 0 / known.length
    | _, _ => none
  count? value := value

theorem naturals_ofWord {value : Nat} (fits : value ≤ greatestSigned) :
    naturals.Yields (.ofWord value) (some value) := by
  have pushed : naturals.Yields (.ofWord value) (naturals.operand (Nat.repr value)) :=
    yields_ofWord fits
  have read : naturals.operand (Nat.repr value) = some value := Nat.toNat?_repr value
  rwa [read] at pushed

theorem builders_compile_naturals :
    ∃ sum mean : Expression,
      Expression.chain .add [.ofWord 2, .ofWord 3, .ofWord 7] = .ok sum ∧
      Expression.average [sum, .ofWord 4] = .ok mean ∧ naturals.Yields mean (some 8) ∧
      (ordered naturals).Yields (.fit (.ofWord 9) (.ofWord 2) (.ofWord 7) false) (some 7) := by
  obtain ⟨_, chains, averages, _⟩ := builders_compile naturals naturals
  obtain ⟨_, _, _, _, _, clamps, _⟩ := builders_compile naturals naturals
  obtain ⟨sum, isSum, yieldsSum⟩ := chains .add (.ofWord 2) [.ofWord 3, .ofWord 7] (some 2)
    [some 3, some 7] rfl (naturals_ofWord (by decide))
    (.cons (naturals_ofWord (by decide)) (.cons (naturals_ofWord (by decide)) .nil))
  obtain ⟨mean, isMean, yieldsMean⟩ := averages [sum, .ofWord 4] [some 12, some 4]
    (by simp) (by simp [greatestSigned]) (Nat.toNat?_repr 2)
    (.cons yieldsSum (.cons (naturals_ofWord (by decide)) .nil))
  have pushed (value : Nat) (fits : value ≤ greatestSigned) :
      (ordered naturals).Yields (.ofWord value) (some value) := by
    have yields : (ordered naturals).Yields (.ofWord value) _ := yields_ofWord fits
    have read : (ordered naturals).operand (Nat.repr value) = some value := Nat.toNat?_repr value
    rwa [read] at yields
  obtain ⟨result, yieldsFit, _, _, _, _, high⟩ :=
    (clamps (.ofWord 9) (.ofWord 2) (.ofWord 7) 9 2 7 (pushed 9 (by decide))
      (pushed 2 (by decide)) (pushed 7 (by decide))).2 (by decide) false
  rw [high (by decide)] at yieldsFit
  exact ⟨sum, mean, isSum, isMean, yieldsMean, yieldsFit⟩

end Meaning

end MainsCharts
