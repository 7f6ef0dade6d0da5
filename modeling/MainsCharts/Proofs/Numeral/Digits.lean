import Mathlib.Data.List.TakeWhile
import MainsCharts.Numeral.Integer
import MainsCharts.Numeral.Literal

/-!
# Runs of digits

A run of digits is read as a whole number as long as its value fits
(`digitsUpTo?_eq_some_iff`).  The value is compared with the bound after each digit.  It never
becomes smaller by a digit, so this is the same as comparing the value of the whole run.

A run ends where the first other character stands (`takeWhile_isDigit_append`).
-/

namespace MainsCharts.Numeral

set_option autoImplicit false

variable {digits rest : List Char} {most value result : Nat}

/-- That a text has digits in it and nothing else. -/
def IsDigits (text : List Char) : Prop :=
  text ≠ [] ∧ ∀ character ∈ text, character.isDigit = true

theorem IsDigits.append_left {other : List Char} (before : ∀ digit ∈ other, digit.isDigit = true)
    (isDigits : IsDigits digits) : IsDigits (other ++ digits) :=
  ⟨List.append_ne_nil_of_right_ne_nil other isDigits.1,
    List.forall_mem_append.mpr ⟨before, isDigits.2⟩⟩

/-! ## Values -/

/-- No value becomes smaller when digits are added to it. -/
theorem le_ofDigitChars (digits : List Char) (value : Nat) :
    value ≤ Nat.ofDigitChars 10 digits value := by
  rw [Nat.ofDigitChars_eq_ofDigitChars_zero]
  have positive : 0 < 10 ^ digits.length := Nat.pow_pos (by decide)
  exact Nat.le_trans (Nat.le_mul_of_pos_left value positive) (Nat.le_add_right _ _)

/-- Digits are added to a value exactly as long as the value fits with all of them. -/
theorem accumulate_eq_ok_iff {overflow : IntegerFault} (fits : value ≤ most) :
    accumulate most overflow value digits = .ok result ↔
      (∀ digit ∈ digits, digit.isDigit = true) ∧
        Nat.ofDigitChars 10 digits value = result ∧ result ≤ most := by
  induction digits generalizing value with
  | nil =>
      simp only [accumulate, Except.ok.injEq, List.not_mem_nil, false_implies, implies_true,
        true_and, Nat.ofDigitChars_nil]
      constructor
      · rintro rfl
        exact ⟨rfl, fits⟩
      · exact And.left
  | cons digit digits ih =>
      rw [accumulate, List.forall_mem_cons, Nat.ofDigitChars_cons, Nat.mul_comm 10 value]
      by_cases isDigit : digit.isDigit = true
      · rw [if_pos isDigit]
        dsimp only
        split
        · rename_i grown
          rw [ih grown]
          simp only [isDigit, true_and]
        · rename_i overflown
          have least := le_ofDigitChars digits (value * 10 + (digit.toNat - '0'.toNat))
          constructor
          · exact nofun
          · rintro ⟨-, rfl, most⟩
            exact absurd (Nat.le_trans least most) overflown
      · rw [if_neg isDigit]
        simp [isDigit]

/-- **Digits are read** as the number that they stand for, unless it is too large. -/
theorem digitsUpTo?_eq_some_iff :
    digitsUpTo? most digits = some value ↔
      IsDigits digits ∧ digitsValue digits = value ∧ value ≤ most := by
  have read : digitsUpTo? most digits = some value ↔
      digits ≠ [] ∧ accumulate most .tooLarge 0 digits = .ok value := by
    rw [digitsUpTo?, readDigits]
    cases digits with
    | nil => simp [Except.toOption]
    | cons digit digits =>
        rw [List.isEmpty_cons, if_neg Bool.false_ne_true]
        cases accumulate most .tooLarge 0 (digit :: digits) <;> simp [Except.toOption]
  rw [read, accumulate_eq_ok_iff (Nat.zero_le most), IsDigits, digitsValue, and_assoc]

/-! ## Ends of runs -/

/-- That a text does not start with a digit. -/
def Undigited (text : List Char) : Prop :=
  ∀ character ∈ text.head?, character.isDigit = false

/-- **A run of digits ends** in front of another character, whatever stands behind that. -/
theorem takeWhile_isDigit_append (text : List Char) (undigited : Undigited rest) :
    (text ++ rest).takeWhile Char.isDigit = text.takeWhile Char.isDigit ∧
      (text ++ rest).dropWhile Char.isDigit = text.dropWhile Char.isDigit ++ rest := by
  induction text with
  | nil =>
      cases rest with
      | nil => exact ⟨rfl, rfl⟩
      | cons character rest =>
          have other : ¬ character.isDigit = true := Bool.eq_false_iff.mp (undigited character rfl)
          exact ⟨List.takeWhile_cons_of_neg other, List.dropWhile_cons_of_neg other⟩
  | cons character text ih =>
      rw [List.cons_append]
      by_cases isDigit : character.isDigit = true
      · rw [List.takeWhile_cons_of_pos isDigit, List.dropWhile_cons_of_pos isDigit,
          List.takeWhile_cons_of_pos isDigit, List.dropWhile_cons_of_pos isDigit, ih.1, ih.2]
        exact ⟨rfl, rfl⟩
      · rw [List.takeWhile_cons_of_neg isDigit, List.dropWhile_cons_of_neg isDigit,
          List.takeWhile_cons_of_neg isDigit, List.dropWhile_cons_of_neg isDigit]
        exact ⟨rfl, rfl⟩

/-- Digits are a run of digits as far as there are no more. -/
theorem takeWhile_isDigit_of_digits (allDigits : ∀ digit ∈ digits, digit.isDigit = true)
    (undigited : Undigited rest) :
    (digits ++ rest).takeWhile Char.isDigit = digits ∧
      (digits ++ rest).dropWhile Char.isDigit = rest := by
  obtain ⟨taken, dropped⟩ := takeWhile_isDigit_append digits undigited
  rw [taken, dropped, List.takeWhile_eq_self_iff.mpr allDigits,
    List.dropWhile_eq_nil_iff.mpr allDigits]
  exact ⟨rfl, rfl⟩

/-- What stands behind a run of digits starts with no digit. -/
theorem undigited_dropWhile (text : List Char) : Undigited (text.dropWhile Char.isDigit) := by
  intro character first
  have stopped := List.head?_dropWhile_not Char.isDigit text
  rw [Option.mem_def.mp first] at stopped
  exact stopped

end MainsCharts.Numeral
