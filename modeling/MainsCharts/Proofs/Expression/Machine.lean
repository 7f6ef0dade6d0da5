import MainsCharts.Expression.Basic
import MainsCharts.Proofs.Numeral.Shape

/-!
# The machine that runs postfix programs

A postfix program is a list of tokens that is run on a stack.  An operand is
pushed; an operator takes the values it needs from the top of the stack and
leaves its result there.  What the values are, and what an operator computes from
them, is left open: a `Meaning` says both.  The machine itself only knows how many
values each operator takes, and fails when they are not there.

An expression is balanced when its tokens push exactly one value on any stack.
What it pushes then depends on nothing below (`balanced_iff`), because a program
that runs on a stack runs in the same way on a deeper one (`run_frame`).
-/

namespace MainsCharts

set_option autoImplicit false

open Numeral

universe u

namespace Operator

/-- What an operator does to the values on the stack. -/
inductive Effect where
  /-- Takes a fixed number of values and leaves one. -/
  | combines (arity : Nat)
  /-- Takes a number, and then as many values as it says, and leaves one. -/
  | averages
  /-- Takes a value and leaves nothing. -/
  | discards
  /-- Reduces a whole series, and is no instruction of a program. -/
  | reduces
  deriving DecidableEq

/-- The effect of each operator. -/
def effect : Operator → Effect
  | time | stepWidth | newDay | newWeek | newMonth | newYear | unknown => .combines 0
  | isUnknown => .combines 1
  | lessThan | greaterThan | atMost | atLeast | equal | unequal | add | subtract | multiply
  | divide | modulo | minimum | maximum | minimumKnown | maximumKnown | trend | trendKnown =>
      .combines 2
  | ifThenElse | limit => .combines 3
  | average => .averages
  | pop => .discards
  | percentile | percentileKnown | seriesAverage | seriesMinimum | seriesMaximum
  | seriesDeviation | seriesLast => .reduces

/-- All operators. -/
def all : List Operator :=
  [lessThan, greaterThan, atMost, atLeast, equal, unequal, isUnknown, ifThenElse, add, subtract,
    multiply, divide, modulo, minimum, maximum, minimumKnown, maximumKnown, limit, average, pop,
    trend, trendKnown, percentile, percentileKnown, seriesAverage, seriesMinimum, seriesMaximum,
    seriesDeviation, seriesLast, newDay, newWeek, newMonth, newYear, time, stepWidth, unknown]

/-- The operator that a token stands for. -/
def ofToken? (token : String) : Option Operator :=
  all.find? fun symbol => symbol.token == token

/-- Operators are read back from their tokens: no two have the same. -/
@[simp] theorem ofToken?_token (symbol : Operator) : ofToken? symbol.token = some symbol := by
  cases symbol <;> decide

theorem token_of_ofToken? {token : String} {symbol : Operator}
    (found : ofToken? token = some symbol) : symbol.token = token := by
  rw [ofToken?] at found
  have same := List.find?_some found
  exact beq_iff_eq.mp same

/-- The characters that occur in operands and in no operator. -/
def isOperandCharacter (character : Char) : Bool :=
  character.isDigit || character.isLower || character == '_'

theorem not_isOperandCharacter_of_mem_token (symbol : Operator) {character : Char}
    (member : character ∈ symbol.token.toList) : isOperandCharacter character = false := by
  have foreign : symbol.token.toList.all (fun other => !isOperandCharacter other) = true := by
    cases symbol <;> decide
  rw [List.all_eq_true] at foreign
  exact (Bool.not_eq_true' _).mp (foreign character member)

/-- A token with such a character is an operand. -/
theorem ofToken?_eq_none {token : String} {character : Char}
    (member : character ∈ token.toList) (foreign : isOperandCharacter character = true) :
    ofToken? token = none := by
  rw [ofToken?, List.find?_eq_none]
  intro symbol _ same
  rw [beq_iff_eq] at same
  subst same
  rw [not_isOperandCharacter_of_mem_token symbol member] at foreign
  exact Bool.noConfusion foreign

/-- A numeral is an operand. -/
theorem ofToken?_eq_none_of_isPlain {token : String} (shaped : isPlain token.toList = true) :
    ofToken? token = none := by
  obtain ⟨digit, member, isDigit⟩ := exists_isDigit_of_isPlain shaped
  have foreign : isOperandCharacter digit = true := by
    rw [isOperandCharacter, isDigit]
    rfl
  exact ofToken?_eq_none member foreign

end Operator

/-- A domain of values with the meaning of operands and operators in it. -/
structure Meaning (Value : Type u) where
  /-- The value of an operand. -/
  operand : String → Value
  /-- What an operator makes of the values it takes, in the order they were pushed. -/
  apply : Operator → List Value → Value
  /-- The number that a value stands for where an average needs one. -/
  count? : Value → Option Nat

namespace Meaning

variable {Value : Type u} (meaning : Meaning Value)

/-- Takes some values from the top of a stack and leaves what an operator makes of
them. -/
def combine (symbol : Operator) (number : Nat) (stack : List Value) : Option (List Value) :=
  if number ≤ stack.length then
    some (meaning.apply symbol (stack.take number).reverse :: stack.drop number)
  else none

/-- Runs an operator on a stack. -/
def perform (symbol : Operator) (stack : List Value) : Option (List Value) :=
  match symbol.effect, stack with
  | .combines arity, values => meaning.combine symbol arity values
  | .averages, count :: values => (meaning.count? count).bind (meaning.combine symbol · values)
  | .discards, _ :: values => some values
  | _, _ => none

/-- Runs a token on a stack.  What is no operator is taken for an operand; whether it stands
for anything is left to the scope it is in. -/
def step (stack : List Value) (token : String) : Option (List Value) :=
  match Operator.ofToken? token with
  | some symbol => meaning.perform symbol stack
  | none => some (meaning.operand token :: stack)

/-- Runs a program on a stack. -/
def run (program : List String) (stack : List Value) : Option (List Value) :=
  program.foldlM meaning.step stack

/-- An expression that pushes exactly one value on any stack. -/
def Balanced (expression : Expression) : Prop :=
  ∀ stack, ∃ value, meaning.run expression.tokens stack = some (value :: stack)

/-- An expression that pushes a certain value on any stack. -/
def Yields (expression : Expression) (value : Value) : Prop :=
  ∀ stack, meaning.run expression.tokens stack = some (value :: stack)

variable {meaning}

/-! ## Runs -/

@[simp] theorem run_nil (stack : List Value) : meaning.run [] stack = some stack := rfl

@[simp] theorem run_cons (token : String) (program : List String) (stack : List Value) :
    meaning.run (token :: program) stack =
      (meaning.step stack token).bind (meaning.run program) := by
  rw [run, List.foldlM_cons]
  rfl

/-- A program in two parts is run part by part. -/
theorem run_append (first second : List String) (stack : List Value) :
    meaning.run (first ++ second) stack =
      (meaning.run first stack).bind (meaning.run second) := by
  rw [run, List.foldlM_append]
  rfl

@[simp] theorem step_operator (symbol : Operator) (stack : List Value) :
    meaning.step stack symbol.token = meaning.perform symbol stack := by
  rw [step, Operator.ofToken?_token]

theorem step_operand {token : String} (plain : Operator.ofToken? token = none)
    (stack : List Value) : meaning.step stack token = some (meaning.operand token :: stack) := by
  rw [step, plain]

theorem perform_combines {symbol : Operator} {arity : Nat}
    (effect : symbol.effect = .combines arity)
    (stack : List Value) : meaning.perform symbol stack = meaning.combine symbol arity stack := by
  unfold perform
  rw [effect]

theorem perform_average {count : Value} {number : Nat}
    (counted : meaning.count? count = some number) (stack : List Value) :
    meaning.perform .average (count :: stack) = meaning.combine .average number stack := by
  simp only [perform, Operator.effect, counted, Option.bind_some]

/-- An operator finds the values that were pushed for it. -/
theorem combine_pushed (symbol : Operator) (values stack : List Value) :
    meaning.combine symbol values.length (values.reverse ++ stack) =
      some (meaning.apply symbol values :: stack) := by
  have enough : values.length ≤ (values.reverse ++ stack).length := by simp
  have top : (values.reverse ++ stack).take values.length = values.reverse :=
    List.take_left' List.length_reverse
  have below : (values.reverse ++ stack).drop values.length = stack :=
    List.drop_left' List.length_reverse
  rw [combine, if_pos enough, top, below, List.reverse_reverse]

/-! ## What stands below is not touched -/

theorem combine_frame {symbol : Operator} {number : Nat} {stack after : List Value}
    (below : List Value) (done : meaning.combine symbol number stack = some after) :
    meaning.combine symbol number (stack ++ below) = some (after ++ below) := by
  rw [combine] at done
  split at done
  · rename_i enough
    obtain rfl := Option.some.inj done
    have deeper : number ≤ (stack ++ below).length := by
      rw [List.length_append]
      omega
    rw [combine, if_pos deeper, List.take_append_of_le_length enough,
      List.drop_append_of_le_length enough, List.cons_append]
  · exact nomatch done

theorem perform_frame {symbol : Operator} {stack after : List Value}
    (below : List Value) (done : meaning.perform symbol stack = some after) :
    meaning.perform symbol (stack ++ below) = some (after ++ below) := by
  unfold perform at done ⊢
  split at done
  · rename_i arity effect
    rw [effect]
    exact combine_frame below done
  · rename_i count values effect
    obtain ⟨number, counted, combined⟩ := Option.bind_eq_some_iff.mp done
    rw [effect, List.cons_append]
    simp only [counted, Option.bind_some]
    exact combine_frame below combined
  · rename_i top values effect
    obtain rfl := Option.some.inj done
    rw [effect]
    rfl
  · exact nomatch done

theorem step_frame {token : String} {stack after : List Value}
    (below : List Value) (done : meaning.step stack token = some after) :
    meaning.step (stack ++ below) token = some (after ++ below) := by
  rw [step] at done ⊢
  cases found : Operator.ofToken? token with
  | some symbol =>
      rw [found] at done
      exact perform_frame below done
  | none =>
      rw [found] at done
      obtain rfl := Option.some.inj done
      rfl

/-- **A program that runs on a stack runs in the same way on a deeper one**, and
leaves what was added below as it was. -/
theorem run_frame {program : List String} {stack after : List Value} (below : List Value)
    (done : meaning.run program stack = some after) :
    meaning.run program (stack ++ below) = some (after ++ below) := by
  induction program generalizing stack with
  | nil =>
      obtain rfl := Option.some.inj done
      rfl
  | cons token program ih =>
      rw [run_cons] at done ⊢
      obtain ⟨middle, stepped, rest⟩ := Option.bind_eq_some_iff.mp done
      rw [step_frame below stepped, Option.bind_some]
      exact ih rest

/-! ## Balanced expressions -/

theorem yields_of_run {expression : Expression} {value : Value}
    (done : meaning.run expression.tokens [] = some [value]) :
    meaning.Yields expression value := by
  intro stack
  exact run_frame stack done

/-- A balanced expression has one value, whatever stands below. -/
theorem balanced_iff {expression : Expression} :
    meaning.Balanced expression ↔ ∃ value, meaning.Yields expression value := by
  constructor
  · intro balanced
    obtain ⟨value, done⟩ := balanced []
    exact ⟨value, yields_of_run done⟩
  · intro ⟨value, yields⟩ stack
    exact ⟨value, yields stack⟩

theorem Yields.balanced {expression : Expression} {value : Value}
    (yields : meaning.Yields expression value) : meaning.Balanced expression :=
  balanced_iff.mpr ⟨value, yields⟩

end Meaning

end MainsCharts
