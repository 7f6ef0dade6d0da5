import Mathlib.Data.List.Basic
import MainsCharts.Proofs.Text.Lines
import MainsCharts.Proofs.Text.Trimming
import MainsCharts.Report

/-!
# Reading reports

A report whose lines all end with a line feed is read as these lines with the white space
around them removed, up to the first that is blank (`reportLines_encode`).  A carriage
return in front of a line feed makes no difference, since it is white space itself.

Where several lines of a report give a value for the same thing, the last of them counts, and a
later line that gives none leaves it as it is (`GivenLast`).  That is the first find in the lines
taken from behind (`findSome?_reverse_eq_iff`).
-/

namespace MainsCharts

set_option autoImplicit false

open Text

/-! ## Lines -/

/-- The text of a report with the given lines. -/
def reportText (lines : List (List Char)) : List Char :=
  (lines.map (· ++ ['\n'])).flatten

theorem cutLines_reportText {lines : List (List Char)} (plain : ∀ line ∈ lines, '\n' ∉ line) :
    cutLines (reportText lines) = lines.map (· ++ ['\n']) := by
  apply cutLines_flatten
  induction lines with
  | nil => exact .nil
  | cons line lines ih =>
      exact .cons (plain line List.mem_cons_self)
        (ih fun other member => plain other (List.mem_cons_of_mem line member))

theorem linesBeforeBlank_map_some (lines : List (List Char)) :
    linesBeforeBlank (lines.map some) =
      .ok ((lines.map trim).takeWhile fun line => !line.isEmpty) := by
  induction lines with
  | nil => rfl
  | cons line lines ih =>
      rw [List.map_cons, linesBeforeBlank, List.map_cons, List.takeWhile_cons, ih]
      cases (trim line).isEmpty <;> rfl

/-- **A report is read** line by line up to the first blank line. -/
theorem reportLines_encode {lines : List (List Char)} (plain : ∀ line ∈ lines, '\n' ∉ line) :
    reportLines (Utf8.encode (reportText lines)) =
      .ok ((lines.map trim).takeWhile fun line => !line.isEmpty) := by
  have read : Text.lines (Utf8.encode (reportText lines)) =
      (lines.map fun line => withoutTerminator (line ++ ['\n'])).map some := by
    rw [lines_encode, cutLines_reportText plain, List.map_map, List.map_map]
    rfl
  rw [reportLines, read, linesBeforeBlank_map_some, List.map_map]
  simp only [Function.comp_def, trim_withoutTerminator]
  rfl

/-! ## The last line that gives something -/

section Last

variable {α : Type} {Gives : List Char → α → Prop} {reads : List Char → Option α}
  {lines : List (List Char)}

/-- What the last of several lines that give something gives. -/
def GivenLast (Gives : List Char → α → Prop) (lines : List (List Char)) : Option α → Prop
  | some value => ∃ earlier line later, lines = earlier ++ line :: later ∧ Gives line value ∧
      ∀ other ∈ later, ∀ further, ¬ Gives other further
  | none => ∀ line ∈ lines, ∀ value, ¬ Gives line value

/-- **The last line that gives something counts.** -/
theorem findSome?_reverse_eq_iff
    (agree : ∀ line ∈ lines, ∀ value, reads line = some value ↔ Gives line value)
    {found : Option α} : lines.reverse.findSome? reads = found ↔ GivenLast Gives lines found := by
  have silent : ∀ line ∈ lines, (reads line = none ↔ ∀ value, ¬ Gives line value) := by
    intro line member
    rw [Option.eq_none_iff_forall_ne_some]
    exact forall_congr' fun value => not_congr (agree line member value)
  cases found with
  | none =>
      rw [List.findSome?_eq_none_iff]
      constructor
      · intro missing line member
        exact (silent line member).mp (missing line (List.mem_reverse.mpr member))
      · intro missing line member
        rw [List.mem_reverse] at member
        exact (silent line member).mpr (missing line member)
  | some value =>
      rw [List.findSome?_eq_some_iff]
      constructor
      · rintro ⟨later, line, earlier, reversed, gives, missing⟩
        have split : lines = earlier.reverse ++ line :: later.reverse := by
          rw [← List.reverse_reverse lines, reversed, List.reverse_append, List.reverse_cons,
            List.append_assoc, List.singleton_append]
        rw [split, List.forall_mem_append, List.forall_mem_cons] at agree silent
        refine ⟨earlier.reverse, line, later.reverse, split, (agree.2.1 value).mp gives, ?_⟩
        intro other member
        exact (silent.2.2 other member).mp (missing other (List.mem_reverse.mp member))
      · rintro ⟨earlier, line, later, rfl, gives, missing⟩
        rw [List.forall_mem_append, List.forall_mem_cons] at agree silent
        refine ⟨later.reverse, line, earlier.reverse, ?_, (agree.2.1 value).mpr gives, ?_⟩
        · rw [List.reverse_append, List.reverse_cons, List.append_assoc, List.singleton_append]
        · intro other member
          rw [List.mem_reverse] at member
          exact (silent.2.2 other member).mpr (missing other member)

end Last

end MainsCharts
