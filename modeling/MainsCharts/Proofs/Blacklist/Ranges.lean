import MainsCharts.Blacklist
import MainsCharts.Proofs.Numeral.Digits
import MainsCharts.Proofs.Text.Search

/-!
# The range on a line

The range on a line is its first pair of numbers with a colon between them, wherever it stands on
the line and whatever stands around it (`HasPair`).  The first number starts where the first such
pair can start, and the second goes on as far as there are digits, so no digit of either is left
out.  The range is missing when there is no pair, and also when one of its numbers does not fit:
no other pair is looked for then (`range?_eq_some_iff`).
-/

namespace MainsCharts.Blacklist

set_option autoImplicit false

open Numeral Text

variable {text first second : List Char}

/-! ## Pairs -/

/-- Two runs of digits with a colon between them, in front of a text. -/
def paired (first second rest : List Char) : List Char :=
  first ++ ':' :: (second ++ rest)

/-- That a text starts with a pair of numbers. -/
def StartsWithPair (text : List Char) : Prop :=
  ∃ first second rest, IsDigits first ∧ IsDigits second ∧ text = paired first second rest

/-- A colon is not a digit. -/
theorem undigited_colon (rest : List Char) : Undigited (':' :: rest) := by
  rintro _ ⟨⟩
  decide

/-- **A pair at the beginning of a text** is taken with all digits of its second number. -/
theorem pairHere?_eq_some_iff : pairHere? text = some (first, second) ↔
    ∃ rest, text = paired first second rest ∧ IsDigits first ∧ IsDigits second ∧
      Undigited rest := by
  constructor
  · intro found
    unfold pairHere? at found
    dsimp only at found
    split at found
    case h_2 => exact nomatch found
    case h_1 rest behind =>
    split at found
    case isTrue => exact nomatch found
    case isFalse nonempty =>
    obtain ⟨rfl, rfl⟩ := Prod.mk.inj (Option.some.inj found)
    rw [Bool.or_eq_true, List.isEmpty_iff, List.isEmpty_iff, not_or] at nonempty
    refine ⟨rest.dropWhile Char.isDigit, ?_, ?_, ?_, undigited_dropWhile rest⟩
    · rw [paired, List.takeWhile_append_dropWhile, ← behind, List.takeWhile_append_dropWhile]
    · exact ⟨nonempty.1, fun _ member => List.mem_takeWhile_imp member⟩
    · exact ⟨nonempty.2, fun _ member => List.mem_takeWhile_imp member⟩
  · rintro ⟨rest, rfl, isFirst, isSecond, ends⟩
    have head := takeWhile_isDigit_of_digits isFirst.2 (undigited_colon (second ++ rest))
    have tail := takeWhile_isDigit_of_digits isSecond.2 ends
    simp only [pairHere?, paired, head, tail]
    rw [if_neg]
    rw [Bool.or_eq_true, List.isEmpty_iff, List.isEmpty_iff, not_or]
    exact ⟨isFirst.1, isSecond.1⟩

theorem isSome_pairHere?_iff : (pairHere? text).isSome ↔ StartsWithPair text := by
  rw [Option.isSome_iff_exists]
  constructor
  · rintro ⟨⟨first, second⟩, found⟩
    obtain ⟨rest, split, isFirst, isSecond, -⟩ := pairHere?_eq_some_iff.mp found
    exact ⟨first, second, rest, isFirst, isSecond, split⟩
  · rintro ⟨first, second, rest, isFirst, isSecond, rfl⟩
    -- The second number may go on in what follows it.
    refine ⟨(first, second ++ rest.takeWhile Char.isDigit), pairHere?_eq_some_iff.mpr ?_⟩
    refine ⟨rest.dropWhile Char.isDigit, ?_, isFirst, ?_, undigited_dropWhile rest⟩
    · rw [paired, paired, List.append_assoc, List.takeWhile_append_dropWhile]
    · refine ⟨List.append_ne_nil_of_left_ne_nil isSecond.1 _, ?_⟩
      exact List.forall_mem_append.mpr ⟨isSecond.2, fun _ member => List.mem_takeWhile_imp member⟩

/-- That the first pair of numbers in a text has the given digits, and goes on no further. -/
def HasPair (text first second : List Char) : Prop :=
  ∃ before rest, text = before ++ paired first second rest ∧ IsDigits first ∧ IsDigits second ∧
    Undigited rest ∧ IsFirst StartsWithPair before (paired first second rest)

/-- **The pair in a text** is the first one. -/
theorem pair?_eq_some_iff : pair? text = some (first, second) ↔ HasPair text first second := by
  rw [search_eq_some_iff pairHere? pair? (fun _ => isSome_pairHere?_iff) rfl rfl fun _ _ => rfl,
    HasPair]
  constructor
  · rintro ⟨before, after, split, here, isFirst⟩
    obtain ⟨rest, rfl, digits⟩ := pairHere?_eq_some_iff.mp here
    exact ⟨before, rest, split, digits.1, digits.2.1, digits.2.2, isFirst⟩
  · rintro ⟨before, rest, split, isDigits, areDigits, ends, isFirst⟩
    exact ⟨before, _, split, pairHere?_eq_some_iff.mpr ⟨rest, rfl, isDigits, areDigits, ends⟩,
      isFirst⟩

/-- A character that is neither a digit nor a colon may follow a text. -/
theorem pairHere?_append_singleton {character : Char} (other : character.isDigit = false)
    (noColon : character ≠ ':') (text : List Char) :
    pairHere? (text ++ [character]) = pairHere? text := by
  have ends : Undigited [character] := by
    rintro _ ⟨⟩
    exact other
  obtain ⟨taken, dropped⟩ := takeWhile_isDigit_append text ends
  rw [pairHere?, pairHere?, taken, dropped]
  split
  · rename_i rest behind
    cases left : text.dropWhile Char.isDigit with
    | nil =>
        rw [left] at behind
        exact absurd (List.cons.inj behind).1 noColon
    | cons colon further =>
        rw [left, List.cons_append] at behind
        obtain ⟨rfl, rfl⟩ := List.cons.inj behind
        dsimp only
        rw [(takeWhile_isDigit_append further ends).1]
        rfl
  · rename_i without
    split
    · rename_i rest behind
      exact absurd (congrArg (· ++ [character]) behind) (without (rest ++ [character]))
    · rfl

theorem pair?_append_singleton {character : Char} (other : character.isDigit = false)
    (noColon : character ≠ ':') (text : List Char) : pair? (text ++ [character]) = pair? text := by
  induction text with
  | nil =>
      have alone := pairHere?_append_singleton other noColon []
      change (pairHere? [character]).or (pair? []) = pair? []
      rw [List.nil_append] at alone
      rw [alone]
      rfl
  | cons first text ih =>
      rw [List.cons_append, pair?, pair?, ih, ← List.cons_append,
        pairHere?_append_singleton other noColon]

/-! ## Ranges -/

/-- That the numbers of the first pair in a text have at most sixty-four bits and are the ends of a
range. -/
def HasRange (text : List Char) (range : TimeRange) : Prop :=
  ∃ first second, HasPair text first second ∧
    (digitsValue first = range.first ∧ range.first ≤ greatestWord) ∧
      digitsValue second = range.last ∧ range.last ≤ greatestWord

/-- **The range in a text** is its first pair of numbers, if these fit. -/
theorem range?_eq_some_iff {range : TimeRange} :
    range? text = some range ↔ HasRange text range := by
  have read : range? text = some range ↔ ∃ first second, pair? text = some (first, second) ∧
      digitsUpTo? greatestWord first = some range.first ∧
        digitsUpTo? greatestWord second = some range.last := by
    obtain ⟨least, most⟩ := range
    simp [range?, Option.bind_eq_some_iff]
  rw [read, HasRange]
  simp only [pair?_eq_some_iff, digitsUpTo?_eq_some_iff]
  constructor
  · rintro ⟨first, second, hasPair, ⟨-, fits⟩, -, alsoFits⟩
    exact ⟨first, second, hasPair, fits, alsoFits⟩
  · rintro ⟨first, second, hasPair, fits, alsoFits⟩
    have areDigits : IsDigits first ∧ IsDigits second := by
      obtain ⟨_, _, _, isFirst, isSecond, _⟩ := hasPair
      exact ⟨isFirst, isSecond⟩
    exact ⟨first, second, hasPair, ⟨areDigits.1, fits⟩, areDigits.2, alsoFits⟩

theorem range?_eq_none_iff : range? text = none ↔ ∀ range, ¬ HasRange text range := by
  rw [Option.eq_none_iff_forall_ne_some]
  simp only [ne_eq, range?_eq_some_iff]

end MainsCharts.Blacklist
