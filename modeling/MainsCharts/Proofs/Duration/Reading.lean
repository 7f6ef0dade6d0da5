import Mathlib.Algebra.Order.BigOperators.Group.List
import Mathlib.Algebra.Order.Ring.Nat
import MainsCharts.Duration
import MainsCharts.Proofs.Numeral.Digits
import MainsCharts.Proofs.Numeral.Shape

/-!
# Reading durations

A written duration is a list of parts, each so many of one unit, with spaces between them.  It can
be cut at the spaces and read again (`parts?`), whatever the counts are (`parts?_written`).

A duration is taken apart along the units, from the longest to the shortest.  What is left for a
unit is always less than the next longer unit, so no part is as long as a longer unit, and what is
left behind the second is nothing (`exists_parts`).  So a written duration is read as the seconds it
was written for, and no two durations are written alike (`text_lossless`).
-/

namespace MainsCharts.Duration

set_option autoImplicit false

open Numeral

/-! ## Parts -/

/-- So many of a unit.  A unit has a length in seconds and an abbreviation. -/
structure Part where
  count : Nat
  unit : Nat × String
  deriving DecidableEq

/-- The digits of the count and the abbreviation of the unit. -/
def Part.text (part : Part) : String :=
  Nat.repr part.count ++ part.unit.2

/-- How long a part is. -/
def Part.seconds (part : Part) : Nat :=
  part.count * part.unit.1

/-- Parts as they are written, with spaces between them. -/
def written (parts : List Part) : String :=
  " ".intercalate (parts.map Part.text)

/-- How long several parts are together. -/
def total (parts : List Part) : Nat :=
  (parts.map Part.seconds).sum

/-- Parts with the longest unit first and each unit once at most, where none is empty and none
could give something to a longer unit. -/
structure IsProper (parts : List Part) : Prop where
  units : ∀ part ∈ parts, part.unit ∈ Duration.units
  decreasing : parts.Pairwise fun longer shorter => shorter.unit.1 < longer.unit.1
  positive : ∀ part ∈ parts, 0 < part.count
  days : ∀ part ∈ parts, part.unit.1 = day → part.count ≤ 364
  hours : ∀ part ∈ parts, part.unit.1 = hour → part.count ≤ 23
  minutes : ∀ part ∈ parts, part.unit.1 = minute → part.count ≤ 59
  seconds : ∀ part ∈ parts, part.unit.1 = 1 → part.count ≤ 59

/-! ## Reading -/

/-- A part that is read: digits, and behind them the abbreviation of a unit. -/
def part? (text : List Char) : Option Part :=
  if (text.takeWhile Char.isDigit).isEmpty then none
  else
    (units.find? fun unit => unit.2.toList = text.dropWhile Char.isDigit).map fun unit =>
      ⟨digitsValue (text.takeWhile Char.isDigit), unit⟩

/-- The parts between the spaces of a text. -/
def parts? (text : List Char) : Option (List Part) :=
  if text.isEmpty then some [] else (text.splitOn ' ').mapM part?

/-- No abbreviation goes on with a digit or has a space in it, and each tells its unit. -/
theorem abbreviation_of_mem : ∀ unit ∈ units,
    Undigited unit.2.toList ∧ ' ' ∉ unit.2.toList ∧
      units.find? (fun other => other.2.toList = unit.2.toList) = some unit := by
  have told : ∀ unit ∈ units, unit.2.toList.head?.any Char.isDigit = false ∧
      ' ' ∉ unit.2.toList ∧
      units.find? (fun other => other.2.toList = unit.2.toList) = some unit := by
    decide
  intro unit isUnit
  obtain ⟨undigited, others⟩ := told unit isUnit
  exact ⟨(Option.any_eq_false _ _).mp undigited, others⟩

theorem toList_text (part : Part) :
    part.text.toList = Nat.toDigits 10 part.count ++ part.unit.2.toList := by
  rw [Part.text, String.toList_append, Nat.toList_repr]

/-- **A part is read** as what it is written for. -/
theorem part?_text {part : Part} (isUnit : part.unit ∈ units) :
    part? part.text.toList = some part := by
  obtain ⟨undigited, -, found⟩ := abbreviation_of_mem part.unit isUnit
  have digits := List.all_eq_true.mp (all_isDigit_toDigits part.count)
  obtain ⟨taken, dropped⟩ := takeWhile_isDigit_of_digits digits undigited
  have nonempty : ¬ (Nat.toDigits 10 part.count).isEmpty = true := by
    rw [List.isEmpty_iff]
    exact Nat.toDigits_ne_nil
  rw [part?, toList_text, taken, dropped, if_neg nonempty, found, Option.map_some, digitsValue,
    Nat.ofDigitChars_ten_toDigits]

theorem space_not_mem_text {part : Part} (isUnit : part.unit ∈ units) : ' ' ∉ part.text.toList := by
  obtain ⟨-, noSpace, -⟩ := abbreviation_of_mem part.unit isUnit
  rw [toList_text, List.mem_append, not_or]
  refine ⟨fun member => ?_, noSpace⟩
  exact nomatch List.all_eq_true.mp (all_isDigit_toDigits part.count) ' ' member

theorem mapM_part?_text {parts : List Part} (areUnits : ∀ part ∈ parts, part.unit ∈ units) :
    (parts.map fun part => part.text.toList).mapM part? = some parts := by
  induction parts with
  | nil => rfl
  | cons part parts ih =>
      obtain ⟨isUnit, others⟩ := List.forall_mem_cons.mp areUnits
      rw [List.map_cons, List.mapM_cons, part?_text isUnit, ih others]
      rfl

/-- **Written parts are read** as they were. -/
theorem parts?_written {parts : List Part} (areUnits : ∀ part ∈ parts, part.unit ∈ units) :
    parts? (written parts).toList = some parts := by
  have characters : (written parts).toList =
      [' '].intercalate (parts.map fun part => part.text.toList) := by
    rw [written, String.toList_intercalate, List.map_map]
    rfl
  rw [parts?, characters]
  cases parts with
  | nil => rfl
  | cons part parts =>
      have noSpaces : ∀ text ∈ (part :: parts).map fun part => part.text.toList, ' ' ∉ text := by
        intro text member
        obtain ⟨other, isPart, rfl⟩ := List.mem_map.mp member
        exact space_not_mem_text (areUnits other isPart)
      have started : [' '].intercalate ((part :: parts).map fun part => part.text.toList) ≠ [] := by
        intro nothing
        have cut := List.splitOn_intercalate ' ' noSpaces (List.cons_ne_nil _ _)
        rw [nothing, List.splitOn_nil] at cut
        have empty : part.text.toList = [] := (List.cons.inj cut).1.symm
        rw [toList_text] at empty
        exact Nat.toDigits_ne_nil (List.append_eq_nil_iff.mp empty).1
      rw [if_neg (by rwa [List.isEmpty_iff]),
        List.splitOn_intercalate ' ' noSpaces (List.cons_ne_nil _ _), mapM_part?_text areUnits]

/-! ## Taking durations apart -/

theorem seconds_le_total {parts : List Part} {part : Part} (member : part ∈ parts) :
    part.seconds ≤ total parts :=
  List.le_sum_of_mem (List.mem_map_of_mem member)

/-- **A duration taken apart** along units that become shorter.  The parts are of these units, in
their order, none is empty, and none is as long as a longer unit; what they do not account for is
what is left behind all the units. -/
theorem exists_parts (lengths : List (Nat × String))
    (decreasing : lengths.Pairwise fun longer shorter => shorter.1 < longer.1) (seconds : Nat) :
    ∃ parts : List Part,
      split lengths seconds = parts.map (fun part => (part.count, part.unit.2)) ∧
      (parts.map Part.unit).Sublist lengths ∧ (∀ part ∈ parts, 0 < part.count) ∧
      (∀ part ∈ parts, ∀ longer ∈ lengths, part.unit.1 < longer.1 → part.seconds < longer.1) ∧
      total parts + lengths.foldl (fun rest unit => rest % unit.1) seconds = seconds := by
  induction lengths generalizing seconds with
  | nil => exact ⟨[], rfl, .slnil, nofun, nofun, Nat.zero_add seconds⟩
  | cons unit lengths ih =>
      obtain ⟨shorter, others⟩ := List.pairwise_cons.mp decreasing
      obtain ⟨parts, taken, ordered, positive, small, whole⟩ := ih others (seconds % unit.1)
      have below : ∀ part ∈ parts, ∀ longer ∈ unit :: lengths,
          part.unit.1 < longer.1 → part.seconds < longer.1 := by
        intro part member longer isUnit above
        rcases List.mem_cons.mp isUnit with rfl | isUnit
        · have most := seconds_le_total member
          have left := Nat.mod_lt seconds (Nat.zero_lt_of_lt above)
          omega
        · exact small part member longer isUnit above
      rw [split]
      by_cases none : seconds / unit.1 = 0
      · rw [if_pos none]
        refine ⟨parts, taken, ordered.cons unit, positive, below, ?_⟩
        have remainder := Nat.div_add_mod seconds unit.1
        rw [none, Nat.mul_zero, Nat.zero_add] at remainder
        rw [List.foldl_cons, whole, remainder]
      · rw [if_neg none]
        refine ⟨⟨seconds / unit.1, unit⟩ :: parts, congrArg _ taken, ordered.cons_cons unit,
          List.forall_mem_cons.mpr ⟨Nat.pos_of_ne_zero none, positive⟩,
          List.forall_mem_cons.mpr ⟨?_, below⟩, ?_⟩
        · -- The first unit is the longest.
          intro longer isUnit above
          rcases List.mem_cons.mp isUnit with rfl | isUnit
          · exact absurd above (lt_irrefl _)
          · exact absurd above (shorter longer isUnit).not_gt
        · have parted : total (⟨seconds / unit.1, unit⟩ :: parts) =
              seconds / unit.1 * unit.1 + total parts := List.sum_cons
          rw [parted, List.foldl_cons, Nat.add_assoc, whole, Nat.mul_comm]
          exact Nat.div_add_mod seconds unit.1

theorem units_decreasing : units.Pairwise fun longer shorter => shorter.1 < longer.1 := by
  decide

/-- Parts of the units, none as long as a longer unit, are proper. -/
theorem isProper_of_small {parts : List Part} (ordered : (parts.map Part.unit).Sublist units)
    (positive : ∀ part ∈ parts, 0 < part.count)
    (small : ∀ part ∈ parts, ∀ longer ∈ units, part.unit.1 < longer.1 → part.seconds < longer.1) :
    IsProper parts := by
  -- As many of a unit as make up the next longer one would be as long as that.
  have few {part : Part} (member : part ∈ parts) {length most : Nat} (name : String)
      (isUnit : (length * (most + 1), name) ∈ units) (same : part.unit.1 = length)
      (longer : length < length * (most + 1)) : part.count ≤ most := by
    have less := small part member _ isUnit (same.trans_lt longer)
    rw [Part.seconds, same, Nat.mul_comm] at less
    exact Nat.le_of_lt_succ (Nat.lt_of_mul_lt_mul_left less)
  refine ⟨?_, ?_, positive, ?_, ?_, ?_, ?_⟩
  · exact fun part member => ordered.subset (List.mem_map_of_mem member)
  · exact List.pairwise_map.mp (units_decreasing.sublist ordered)
  · exact fun part member same => few member "г." (by decide) same (by decide)
  · exact fun part member same => few member "д." (by decide) same (by decide)
  · exact fun part member same => few member "ч." (by decide) same (by decide)
  · exact fun part member same => few member "м." (by decide) same (by decide)

/-- The parts of a duration, as it is written. -/
theorem exists_isProper (seconds : Nat) :
    ∃ parts, text seconds = written parts ∧ IsProper parts ∧ total parts = seconds := by
  obtain ⟨parts, taken, ordered, positive, small, whole⟩ :=
    exists_parts units units_decreasing seconds
  refine ⟨parts, ?_, isProper_of_small ordered positive small, ?_⟩
  · rw [text, taken, List.map_map]
    rfl
  · have nothing : units.foldl (fun rest unit => rest % unit.1) seconds = 0 := by
      simp only [units, List.foldl_cons, List.foldl_nil, Nat.mod_one]
    rwa [nothing, Nat.add_zero] at whole

/-! ## Durations -/

/-- **A written duration is read as what it was written for.**  Its parts are of units that become
shorter, each with a count that is positive and leaves nothing to a longer unit, and together they
are the duration.  So no two durations are written alike, and only the empty one is not written at
all. -/
theorem text_lossless (seconds : Nat) :
    (∃ parts, text seconds = written parts ∧ IsProper parts ∧
      parts? (text seconds).toList = some parts ∧ total parts = seconds) ∧
    (∀ other, text other = text seconds ↔ other = seconds) ∧
    (text seconds = "" ↔ seconds = 0) := by
  have reads (seconds : Nat) : ∃ parts, text seconds = written parts ∧ IsProper parts ∧
      parts? (text seconds).toList = some parts ∧ total parts = seconds := by
    obtain ⟨parts, isWritten, proper, whole⟩ := exists_isProper seconds
    refine ⟨parts, isWritten, proper, ?_, whole⟩
    rw [isWritten]
    exact parts?_written proper.units
  have apart (other seconds : Nat) : text other = text seconds ↔ other = seconds := by
    refine ⟨fun same => ?_, congrArg text⟩
    obtain ⟨parts, -, -, read, rfl⟩ := reads seconds
    obtain ⟨others, -, -, readOther, rfl⟩ := reads other
    rw [same, read] at readOther
    rw [Option.some.inj readOther]
  have empty : text 0 = "" := by decide
  refine ⟨reads seconds, fun other => apart other seconds, ?_⟩
  rw [← empty, apart]

example : parts? "1д. 1ч. 1с.".toList =
    some [⟨1, (86400, "д.")⟩, ⟨1, (3600, "ч.")⟩, ⟨1, (1, "с.")⟩] := by
  decide

end MainsCharts.Duration
