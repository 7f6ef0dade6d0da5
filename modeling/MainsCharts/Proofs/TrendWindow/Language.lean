import MainsCharts.Proofs.Numeral.Grammar
import MainsCharts.Proofs.Numeral.Ordering
import MainsCharts.Proofs.Numeral.Scientific
import MainsCharts.Proofs.Text.Casing
import MainsCharts.Proofs.Text.Trimming
import MainsCharts.TrendWindow

/-!
# The language of trend windows

The window of a trend is written as a word, as a percentage or as a number of seconds
(`IsWritten`).  What is read from a text, without the white space around it, is what it is written
for, and every other text is refused (`read_language`).

The three forms are tried one after another, but no text has two of them: the word has letters only,
a percentage ends with its sign, and seconds have neither.  The reader of percentages knows words as
well as numerals, but these are the infinite numbers and the one that is none, which are refused
later.
-/

namespace MainsCharts.TrendWindow

set_option autoImplicit false

open Numeral Text

variable {text number digits : List Char} {share : Float} {window : TrendWindow}

/-! ## Forms -/

/-- That a text is a word of small letters, each of them small or capital. -/
def IsWord (text word : List Char) : Prop :=
  List.Forall₂ (fun character letter => character = letter ∨ character = letter.toUpper) text word

/-- **The texts for a window**: the word for the window that is left to the program, a numeral with
a percent sign behind it whose nearest double is finite and not negative, or digits for a number of
seconds that fits a word of sixty-four bits. -/
inductive IsWritten : List Char → TrendWindow → Prop where
  | auto {text : List Char} : IsWord text ['a', 'u', 't', 'o'] → IsWritten text .auto
  | percent {number : List Char} {literal : Literal} {nearest : ℚ} :
      IsNumeral isFullStop (trim number) literal → IsRounded literal.value nearest →
      exactValue? literal.toFloat = some nearest → 0 ≤ nearest →
      IsWritten (number ++ ['%']) (.percent literal.toFloat)
  | seconds {text digits : List Char} : IsSigned text false digits → IsDigits digits →
      digitsValue digits ≤ greatestWord → IsWritten text (.seconds (digitsValue digits))

/-- How a text is refused: as a percentage when it ends with the sign for one. -/
def refusal (text : String) : Misuse :=
  if (trim text.toList).getLast? = some '%' then .trendPercentage text else .trend text

/-! ## The word -/

theorem map_toLower_eq_iff {word : List Char} (small : ∀ letter ∈ word, letter.isLower = true) :
    text.map Char.toLower = word ↔ IsWord text word := by
  induction text generalizing word with
  | nil =>
      cases word with
      | nil => exact iff_of_true rfl .nil
      | cons => exact iff_of_false nofun nofun
  | cons character text ih =>
      cases word with
      | nil => exact iff_of_false nofun nofun
      | cons letter word =>
          obtain ⟨isSmall, others⟩ := List.forall_mem_cons.mp small
          rw [List.map_cons, List.cons.injEq, toLower_eq_iff isSmall, ih others, IsWord, IsWord,
            List.forall₂_cons]

theorem isLower_of_mem : ∀ letter ∈ ['a', 'u', 't', 'o'], letter.isLower = true :=
  List.all_eq_true.mp rfl

theorem map_toLower_auto_iff :
    text.map Char.toLower = ['a', 'u', 't', 'o'] ↔ IsWord text ['a', 'u', 't', 'o'] :=
  map_toLower_eq_iff isLower_of_mem

/-- The word has letters only. -/
theorem isAlpha_of_map_toLower (word : text.map Char.toLower = ['a', 'u', 't', 'o']) :
    ∀ character ∈ text, character.isAlpha = true := by
  intro character member
  exact isAlpha_of_isLower_toLower (isLower_of_mem _ (word ▸ List.mem_map_of_mem member))

theorem isAlpha_of_isDigit {character : Char} (digit : character.isDigit = true) :
    character.isAlpha = false := by
  have small : character.toNat < 128 :=
    Nat.lt_of_le_of_lt (Char.isDigit_iff_toNat.mp digit).2 (by decide)
  revert digit
  exact forall_ascii character small (by decide)

/-! ## Percentages -/

theorem beforePercentSign?_eq_some_iff :
    beforePercentSign? text = some number ↔ text = number ++ ['%'] := by
  constructor
  · intro found
    unfold beforePercentSign? at found
    split at found
    · rename_i rest reversed
      obtain rfl := Option.some.inj found
      rw [← List.reverse_cons, ← reversed, List.reverse_reverse]
    · exact nomatch found
  · rintro rfl
    rw [beforePercentSign?, List.reverse_append, List.reverse_singleton, List.singleton_append]
    exact congrArg some (List.reverse_reverse number)

/-- A text ends with a percent sign when there is a text before that. -/
theorem getLast?_eq_percentSign_iff :
    text.getLast? = some '%' ↔ ∃ number, beforePercentSign? text = some number := by
  simp only [beforePercentSign?_eq_some_iff]
  exact List.getLast?_eq_some_iff

/-- **A percentage** is read from the numerals whose nearest double is finite and not negative. -/
theorem readPercentage?_eq_some_iff : readPercentage? number = some share ↔
    ∃ literal nearest, IsNumeral isFullStop (trim number) literal ∧
      IsRounded literal.value nearest ∧ exactValue? literal.toFloat = some nearest ∧
      0 ≤ nearest ∧ literal.toFloat = share := by
  have accepted : readPercentage? number = some share ↔
      readNumber (trim number) = .ok share ∧ share.isFinite = true ∧ 0.0 ≤ share := by
    unfold readPercentage?
    cases readNumber (trim number) with
    | error => simp
    | ok value =>
        rw [Option.ite_none_right_eq_some, Except.ok.injEq, Option.some.injEq, and_comm]
        exact and_congr_right fun same => by rw [same]
  rw [accepted]
  constructor
  · rintro ⟨read, finite, atLeast⟩
    obtain ⟨literal, isNumeral, rfl⟩ := (readNumber_eq_ok_iff_of_isFinite finite).mp read
    obtain ⟨nearest, rounded, isValue⟩ := Literal.isFinite_toFloat_iff.mp finite
    exact ⟨literal, nearest, isNumeral, rounded, isValue,
      (le_iff exactValue?_zero isValue).mp atLeast, rfl⟩
  · rintro ⟨literal, nearest, isNumeral, rounded, isValue, nonneg, rfl⟩
    exact ⟨isNumeral.readNumber_eq, isFinite_iff.mpr ⟨nearest, isValue⟩,
      (le_iff exactValue?_zero isValue).mpr nonneg⟩

/-! ## Seconds -/

/-- Seconds are neither the word nor a percentage. -/
theorem not_word_of_isDigits (isSigned : IsSigned text false digits) (isDigits : IsDigits digits) :
    ¬ text.map Char.toLower = ['a', 'u', 't', 'o'] ∧ beforePercentSign? text = none := by
  have characters : ∀ character ∈ text, character = '+' ∨ character.isDigit = true := by
    have others : ∀ character ∈ digits, character = '+' ∨ character.isDigit = true :=
      fun character member => .inr (isDigits.2 character member)
    cases isSigned with
    | bare => exact others
    | plus => exact List.forall_mem_cons.mpr ⟨.inl rfl, others⟩
  constructor
  · intro word
    obtain ⟨first, rest, rfl⟩ := List.exists_cons_of_ne_nil isDigits.1
    have member : first ∈ text := by
      cases isSigned with
      | bare => exact List.mem_cons_self
      | plus => exact List.mem_cons_of_mem _ List.mem_cons_self
    have letter := isAlpha_of_map_toLower word first member
    rw [isAlpha_of_isDigit (isDigits.2 first List.mem_cons_self)] at letter
    exact Bool.false_ne_true letter
  · refine Option.eq_none_iff_forall_ne_some.mpr fun number isBefore => ?_
    obtain rfl := beforePercentSign?_eq_some_iff.mp isBefore
    rcases characters '%' (List.mem_append_right number List.mem_cons_self) with sign | digit
    · exact absurd sign (by decide)
    · exact nomatch digit

/-! ## Windows -/

/-- **What is read** is what the text is written for. -/
theorem read_eq_ok_iff {text : String} :
    read text = .ok window ↔ IsWritten (trim text.toList) window := by
  unfold read
  dsimp only
  generalize trim text.toList = inner
  constructor
  · intro accepted
    split at accepted
    · rename_i word
      obtain rfl := Except.ok.inj accepted
      exact .auto (map_toLower_auto_iff.mp word)
    · split at accepted
      · rename_i number isBefore
        obtain rfl := beforePercentSign?_eq_some_iff.mp isBefore
        split at accepted
        · rename_i share isShare
          obtain rfl := Except.ok.inj accepted
          obtain ⟨literal, nearest, isNumeral, rounded, isValue, nonneg, rfl⟩ :=
            readPercentage?_eq_some_iff.mp isShare
          exact .percent isNumeral rounded isValue nonneg
        · exact nomatch accepted
      · split at accepted
        · rename_i count isCount
          obtain rfl := Except.ok.inj accepted
          obtain ⟨digits, isSigned, isDigits, rfl, fits⟩ := readUnsigned_eq_ok_iff.mp isCount
          exact .seconds isSigned isDigits fits
        · exact nomatch accepted
  · intro isWritten
    cases isWritten with
    | auto word => exact if_pos (map_toLower_auto_iff.mpr word)
    | @percent number literal nearest isNumeral rounded isValue nonneg =>
        have noWord : ¬ (number ++ ['%']).map Char.toLower = ['a', 'u', 't', 'o'] := fun word =>
          nomatch isAlpha_of_map_toLower word '%' (List.mem_append_right number List.mem_cons_self)
        have isShare : readPercentage? number = some literal.toFloat :=
          readPercentage?_eq_some_iff.mpr
            ⟨literal, nearest, isNumeral, rounded, isValue, nonneg, rfl⟩
        rw [if_neg noWord, beforePercentSign?_eq_some_iff.mpr rfl]
        dsimp only
        rw [isShare]
    | @seconds _ digits isSigned isDigits fits =>
        obtain ⟨noWord, noPercentage⟩ := not_word_of_isDigits isSigned isDigits
        have isCount := readUnsigned_eq_ok_iff.mpr ⟨digits, isSigned, isDigits, rfl, fits⟩
        rw [if_neg noWord, noPercentage]
        dsimp only
        rw [isCount]

/-- A text that is refused is refused as what it ends like. -/
theorem eq_refusal_of_read {text : String} {fault : Misuse} (refused : read text = .error fault) :
    fault = refusal text := by
  unfold read at refused
  unfold refusal
  dsimp only at refused
  split at refused
  · exact nomatch refused
  · split at refused
    · rename_i number isBefore
      rw [if_pos (getLast?_eq_percentSign_iff.mpr ⟨number, isBefore⟩)]
      split at refused
      · exact nomatch refused
      · exact (Except.error.inj refused).symm
    · rename_i noPercentage
      rw [if_neg]
      · split at refused
        · exact nomatch refused
        · exact (Except.error.inj refused).symm
      · rw [getLast?_eq_percentSign_iff, noPercentage]
        exact nofun

/-- **What is refused** is not written for any window. -/
theorem read_eq_error_iff {text : String} {fault : Misuse} :
    read text = .error fault ↔
      (∀ window, ¬ IsWritten (trim text.toList) window) ∧ fault = refusal text := by
  constructor
  · intro refused
    refine ⟨fun window isWritten => ?_, eq_refusal_of_read refused⟩
    rw [read_eq_ok_iff.mpr isWritten] at refused
    exact nomatch refused
  · rintro ⟨unwritten, rfl⟩
    cases outcome : read text with
    | ok window => exact absurd (read_eq_ok_iff.mp outcome) (unwritten window)
    | error fault => rw [eq_refusal_of_read outcome]

/-- A number of seconds in decimal is written for a window. -/
theorem isWritten_toDigits {count : Nat} (fits : count ≤ greatestWord) :
    IsWritten (Nat.toDigits 10 count) (.seconds count) := by
  have isDigits : IsDigits (Nat.toDigits 10 count) :=
    ⟨Nat.toDigits_ne_nil, List.all_eq_true.mp (all_isDigit_toDigits count)⟩
  have value : digitsValue (Nat.toDigits 10 count) = count := Nat.ofDigitChars_ten_toDigits
  have isWritten := IsWritten.seconds (.bare _) isDigits (value.trans_le fits)
  rwa [value] at isWritten

/-- **Reading a trend window** gives what the text, without the white space around it, is written
for, and refuses every text that is written for no window.  So every number of seconds is read from
its decimal digits, whatever white space is around them. -/
theorem read_language (text : String) :
    (∀ window, read text = .ok window ↔ IsWritten (trim text.toList) window) ∧
    (∀ fault, read text = .error fault ↔
      (∀ window, ¬ IsWritten (trim text.toList) window) ∧ fault = refusal text) ∧
    ∀ count before behind, count ≤ greatestWord →
      (∀ character ∈ before, isBlank character = true) →
      (∀ character ∈ behind, isBlank character = true) →
      text.toList = before ++ (Nat.toDigits 10 count ++ behind) →
      read text = .ok (.seconds count) := by
  refine ⟨fun _ => read_eq_ok_iff, fun _ => read_eq_error_iff, ?_⟩
  intro count before behind fits blankBefore blankBehind characters
  have solid := isSolid_of_isDigit (all_isDigit_toDigits count)
  rw [read_eq_ok_iff, characters, trim_surrounded blankBefore blankBehind solid.isTrimmed]
  exact isWritten_toDigits fits

/-- The greatest number of seconds with white space around it, a percentage with white space before
its sign, and a unit, which is refused. -/
theorem read_language_greatest :
    read "\t18446744073709551615 " = .ok (.seconds 18446744073709551615) ∧
      IsWritten "+2.5 %".toList (.percent 2.5) ∧
      ∀ window, ¬ IsWritten "1h".toList window := by
  have read : read "+2.5 %" = .ok (.percent 2.5) := rfl
  have refused : TrendWindow.read "1h" = .error (.trend "1h") := rfl
  refine ⟨?_, ((read_language "+2.5 %").1 _).mp read, (((read_language "1h").2.1 _).mp refused).1⟩
  exact (read_language _).2.2 18446744073709551615 ['\t'] [' '] (by decide)
    (List.forall_mem_singleton.mpr rfl) (List.forall_mem_singleton.mpr rfl) rfl

end MainsCharts.TrendWindow
