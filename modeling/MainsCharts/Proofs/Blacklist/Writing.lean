import MainsCharts.Proofs.Blacklist.Lines
import MainsCharts.Proofs.Text.Trimming

/-!
# Writing blacklists

A blacklist may be written in many ways: with zeros in front of the numbers, with white space
around the ranges, with comments behind them, and with rows that hold no range.  A sheet is such a
way of writing one (`Sheet`), and its types leave no room for anything that would spoil a range.

Reading a sheet gives the ranges that were written, in their order, and no warning (`read_sheet`).
The search for a pair of numbers starts at any place on a row.  It finds the pair that was written
because no digit and no colon stand before it, and takes all digits of it because white space or
nothing follows.
-/

namespace MainsCharts.Blacklist

set_option autoImplicit false

open Numeral Text

/-! ## Sheets -/

/-- White space on a line. -/
structure Spacing where
  text : List Char
  blank : ∀ character ∈ text, isBlank character = true
  sameLine : '\n' ∉ text

/-- What is said in a comment on a line. -/
structure Remark where
  text : List Char
  sameLine : '\n' ∉ text

/-- A number of sixty-four bits, with zeros in front of its digits. -/
structure PaddedNumber where
  zeros : Nat
  value : UInt64

/-- The digits of a number. -/
def PaddedNumber.text (number : PaddedNumber) : List Char :=
  List.replicate number.zeros '0' ++ Nat.toDigits 10 number.value.toNat

/-- A row of a sheet: white space, perhaps with a range between, and perhaps a comment. -/
structure Row where
  before : Spacing
  ends : Option (PaddedNumber × PaddedNumber)
  behind : Spacing
  remark : Option Remark

namespace Row

/-- A row without its comment. -/
def content (row : Row) : List Char :=
  match row.ends with
  | some (first, last) => row.before.text ++ paired first.text last.text row.behind.text
  | none => row.before.text ++ row.behind.text

/-- A row as it is written. -/
def text (row : Row) : List Char :=
  row.content ++
    match row.remark with
    | some remark => '#' :: remark.text
    | none => []

/-- The range on a row. -/
def range? (row : Row) : Option TimeRange :=
  row.ends.map fun (first, last) => ⟨first.value.toNat, last.value.toNat⟩

end Row

/-- The end of a row. -/
inductive RowEnd where
  | lineFeed
  | carriageReturn
  deriving DecidableEq

/-- The characters in front of the line feed at the end of a row. -/
def RowEnd.text : RowEnd → List Char
  | lineFeed => []
  | carriageReturn => ['\r']

/-- A blacklist in writing: rows with their ends, and a last row without one, which may be empty. -/
structure Sheet where
  rows : List (Row × RowEnd)
  last : Row

namespace Sheet

/-- The text of a sheet. -/
def text (sheet : Sheet) : List Char :=
  (sheet.rows.flatMap fun (row, rowEnd) => row.text ++ rowEnd.text ++ ['\n']) ++ sheet.last.text

/-- The ranges on a sheet. -/
def ranges (sheet : Sheet) : Blacklist :=
  (sheet.rows.map Prod.fst ++ [sheet.last]).filterMap Row.range?

end Sheet

/-! ## Numbers -/

theorem isDigits_paddedNumber (number : PaddedNumber) : IsDigits number.text := by
  refine IsDigits.append_left ?_ ⟨Nat.toDigits_ne_nil, ?_⟩
  · intro digit member
    obtain rfl := List.eq_of_mem_replicate member
    decide
  · intro digit member
    exact Nat.isDigit_of_mem_toDigits (by decide) (by decide) member

/-- Zeros in front of a number do not change it. -/
theorem digitsValue_paddedNumber (number : PaddedNumber) :
    digitsValue number.text = number.value.toNat := by
  rw [digitsValue, PaddedNumber.text, Nat.ofDigitChars_append, Nat.ofDigitChars_replicate_zero,
    Nat.mul_zero, Nat.ofDigitChars_ten_toDigits]

theorem toNat_le_greatestWord (word : UInt64) : word.toNat ≤ greatestWord :=
  Nat.le_of_lt_succ word.toNat_lt

/-! ## Rows -/

/-- White space is no digit. -/
theorem Spacing.isDigit_eq_false (spacing : Spacing) :
    ∀ character ∈ spacing.text, character.isDigit = false := by
  intro character member
  refine Bool.eq_false_iff.mpr fun isDigit => ?_
  have solid := isBlank_of_isDigit isDigit
  rw [spacing.blank character member] at solid
  exact absurd solid.symm Bool.false_ne_true

/-- No character of a text without digits starts a pair of numbers. -/
theorem isFirst_of_undigited {before after : List Char} (here : StartsWithPair after)
    (undigited : ∀ character ∈ before, character.isDigit = false) :
    IsFirst StartsWithPair before after := by
  refine ⟨here, ?_⟩
  rintro start skipped rfl nonempty ⟨first, second, rest, isFirst, -, split⟩
  obtain ⟨digit, digits, rfl⟩ := List.exists_cons_of_ne_nil isFirst.1
  obtain ⟨character, others, rfl⟩ := List.exists_cons_of_ne_nil nonempty
  have same : character = digit := (List.cons.inj split).1
  have other := undigited character (List.mem_append_right start List.mem_cons_self)
  rw [same, isFirst.2 digit List.mem_cons_self] at other
  exact absurd other.symm Bool.false_ne_true

/-- **The pair that was written** is the one that is found. -/
theorem hasPair_written (before : Spacing) (first second : PaddedNumber) (behind : Spacing) :
    HasPair (before.text ++ paired first.text second.text behind.text) first.text second.text := by
  have isFirst := isDigits_paddedNumber first
  have isSecond := isDigits_paddedNumber second
  refine ⟨before.text, behind.text, rfl, isFirst, isSecond, ?_, ?_⟩
  · intro character head
    exact behind.isDigit_eq_false character (List.mem_of_head? head)
  · exact isFirst_of_undigited ⟨_, _, _, isFirst, isSecond, rfl⟩ before.isDigit_eq_false

/-- Each character of a row in front of its comment is white space, a digit or a colon. -/
theorem Row.forall_mem_content {row : Row} {Holds : Char → Prop}
    (blank : ∀ character, isBlank character = true → character ≠ '\n' → Holds character)
    (digit : ∀ character, character.isDigit = true → Holds character) (colon : Holds ':') :
    ∀ character ∈ row.content, Holds character := by
  have spaced (spacing : Spacing) : ∀ character ∈ spacing.text, Holds character := by
    intro character member
    refine blank character (spacing.blank character member) ?_
    rintro rfl
    exact spacing.sameLine member
  have numbered (number : PaddedNumber) : ∀ character ∈ number.text, Holds character :=
    fun character member => digit character ((isDigits_paddedNumber number).2 character member)
  rw [Row.content]
  split
  · rw [paired, List.forall_mem_append, List.forall_mem_append, List.forall_mem_cons,
      List.forall_mem_append]
    exact ⟨spaced _, numbered _, colon, numbered _, spaced _⟩
  · rw [List.forall_mem_append]
    exact ⟨spaced _, spaced _⟩

theorem Row.newline_not_mem_text (row : Row) : '\n' ∉ row.text := by
  have content : '\n' ∉ row.content := by
    intro member
    refine row.forall_mem_content (fun _ _ other => other) ?_ (by decide) '\n' member rfl
    rintro _ isDigit rfl
    exact absurd isDigit (by decide)
  rw [Row.text, List.mem_append, not_or]
  refine ⟨content, ?_⟩
  cases row.remark with
  | none => exact List.not_mem_nil
  | some remark => exact List.not_mem_cons_of_ne_of_not_mem (by decide) remark.sameLine

/-- The comment goes from the only number sign in front of which a range may stand. -/
theorem withoutComment_row (row : Row) : withoutComment row.text = row.content := by
  have plain : ∀ character ∈ row.content, decide (character ≠ '#') = true := by
    refine row.forall_mem_content ?_ ?_ (by decide)
    · intro character blank _
      refine decide_eq_true ?_
      rintro rfl
      exact absurd blank (by decide)
    · intro character isDigit
      refine decide_eq_true ?_
      rintro rfl
      exact absurd isDigit (by decide)
  rw [withoutComment, Row.text, List.takeWhile_append_of_pos plain]
  cases row.remark with
  | none => exact List.append_nil _
  | some remark => exact List.append_nil _

/-- **What is found on a row** is the range that was written there. -/
theorem entry_row (row : Row) :
    entry row.text =
      match row.range? with
      | some range => .range range
      | none => .nothing := by
  rw [entry, withoutComment_row, Row.range?]
  cases written : row.ends with
  | none =>
      have blank : trim row.content = [] := by
        rw [trim_eq_nil_iff, Row.content, written, List.forall_mem_append]
        exact ⟨row.before.blank, row.behind.blank⟩
      rw [blank]
      rfl
  | some ends =>
      obtain ⟨first, last⟩ := ends
      have content : row.content =
          row.before.text ++ paired first.text last.text row.behind.text := by
        rw [Row.content, written]
      -- The colon alone is enough for the row not to count as blank.
      have solid : ¬ (trim row.content).isEmpty = true := by
        rw [List.isEmpty_iff, trim_eq_nil_iff]
        intro blank
        have colon : ':' ∈ row.content := by simp [content, paired]
        exact absurd (blank ':' colon) (by decide)
      have hasRange : HasRange row.content ⟨first.value.toNat, last.value.toNat⟩ := by
        refine ⟨first.text, last.text, ?_, ⟨digitsValue_paddedNumber first, ?_⟩,
          digitsValue_paddedNumber last, ?_⟩
        · rw [content]
          exact hasPair_written row.before first last row.behind
        · exact toNat_le_greatestWord first.value
        · exact toNat_le_greatestWord last.value
      rw [if_neg solid, range?_eq_some_iff.mpr hasRange]
      rfl

/-- A carriage return at the end of a line makes no difference. -/
theorem entry_append_carriageReturn (line : List Char) : entry (line ++ ['\r']) = entry line := by
  have carried (content : List Char) :
      trim (content ++ ['\r']) = trim content ∧ Blacklist.range? (content ++ ['\r']) =
        Blacklist.range? content := by
    refine ⟨trim_append_singleton (by decide) content, ?_⟩
    rw [Blacklist.range?, pair?_append_singleton (by decide) (by decide), Blacklist.range?]
  -- The carriage return is a part of the content only where there is no comment.
  rw [entry, entry, withoutComment, List.takeWhile_append]
  split
  · rename_i uncommented
    have whole : withoutComment line = line :=
      (List.takeWhile_prefix _).eq_of_length uncommented
    rw [whole, List.takeWhile_cons_of_pos (by decide), List.takeWhile_nil, (carried line).1,
      (carried line).2]
  · rfl

/-- The terminator of a line makes no difference. -/
theorem entry_withoutTerminator (line : List Char) :
    entry (withoutTerminator (line ++ ['\n'])) = entry line := by
  rcases eq_withoutTerminator line with same | carried
  · rw [← same]
  · have read := entry_append_carriageReturn (withoutTerminator (line ++ ['\n']))
    rw [← carried] at read
    exact read.symm

/-! ## Reading -/

theorem bareLines_append_newline {body : List Char} (plain : '\n' ∉ body) (rest : List Char) :
    bareLines (body ++ '\n' :: rest) = withoutTerminator (body ++ ['\n']) :: bareLines rest := by
  rw [bareLines, cutLines_append_newline plain, List.map_cons, bareLines]

/-- What is read from a row with an end is what is on the row. -/
theorem entry_ended (row : Row) (rowEnd : RowEnd) :
    entry (withoutTerminator (row.text ++ rowEnd.text ++ ['\n'])) = entry row.text := by
  rw [entry_withoutTerminator]
  cases rowEnd with
  | lineFeed => exact congrArg entry (List.append_nil row.text)
  | carriageReturn => exact entry_append_carriageReturn row.text

/-- What is read from a last line without an end. -/
theorem read_unended {body : List Char} (plain : '\n' ∉ body) :
    rangesOf (bareLines body) = (entry body).ranges ∧
      ∀ number, warningsFrom number (bareLines body) = (entry body).warnings number body := by
  by_cases nothing : body = []
  · rw [nothing]
    exact ⟨rfl, fun _ => rfl⟩
  · have single : bareLines body = [body] := by
      rw [bareLines, cutLines_of_not_mem plain nothing, List.map_singleton,
        withoutTerminator_eq_self plain]
    rw [single]
    exact ⟨List.append_nil _, fun _ => List.append_nil _⟩

theorem entry_ranges_row (row : Row) : (entry row.text).ranges = row.range?.toList := by
  rw [entry_row]
  cases row.range? <;> rfl

theorem entry_warnings_row (row : Row) (number : Nat) (line : List Char) :
    (entry row.text).warnings number line = [] := by
  rw [entry_row]
  cases row.range? <;> rfl

/-- Each row adds its range to those of the rows below it. -/
theorem read_rows (rows : List (Row × RowEnd)) (last : Row) :
    rangesOf (bareLines (Sheet.text ⟨rows, last⟩)) = Sheet.ranges ⟨rows, last⟩ ∧
      ∀ number, warningsFrom number (bareLines (Sheet.text ⟨rows, last⟩)) = [] := by
  induction rows with
  | nil =>
      obtain ⟨ranges, warnings⟩ := read_unended last.newline_not_mem_text
      change rangesOf (bareLines last.text) = [last].filterMap Row.range? ∧
        ∀ number, warningsFrom number (bareLines last.text) = []
      rw [ranges, entry_ranges_row]
      refine ⟨?_, fun number => ?_⟩
      · cases read : last.range? <;> simp [read]
      · rw [warnings, entry_warnings_row]
  | cons ended rows ih =>
      obtain ⟨row, rowEnd⟩ := ended
      have plain : '\n' ∉ row.text ++ rowEnd.text := by
        rw [List.mem_append, not_or]
        exact ⟨row.newline_not_mem_text, by cases rowEnd <;> decide⟩
      have lines : bareLines (Sheet.text ⟨(row, rowEnd) :: rows, last⟩) =
          withoutTerminator (row.text ++ rowEnd.text ++ ['\n']) ::
            bareLines (Sheet.text ⟨rows, last⟩) := by
        rw [← bareLines_append_newline plain, Sheet.text, Sheet.text, List.flatMap_cons]
        simp only [List.append_assoc, List.cons_append, List.nil_append]
      obtain ⟨ranges, warnings⟩ := ih
      rw [lines]
      refine ⟨?_, fun number => ?_⟩
      · rw [rangesOf, List.flatMap_cons, entry_ended, entry_ranges_row, ← rangesOf, ranges]
        cases read : row.range? <;> simp [Sheet.ranges, read]
      · rw [warningsFrom, entry_ended, entry_warnings_row, warnings]
        rfl

/-- **A sheet is read as it was written**: the ranges on it in their order, without a warning, and
so with exactly the moments between their ends. -/
theorem read_sheet (sheet : Sheet) :
    read (Utf8.encode sheet.text) = ⟨.ok sheet.ranges, []⟩ ∧
    ∀ moment, sheet.ranges.contains moment = true ↔
      ∃ range ∈ sheet.ranges, range.first ≤ moment ∧ moment ≤ range.last := by
  obtain ⟨ranges, warnings⟩ := read_rows sheet.rows sheet.last
  refine ⟨?_, fun _ => contains_eq_true_iff⟩
  rw [read_encode, ranges, warnings]

end MainsCharts.Blacklist
