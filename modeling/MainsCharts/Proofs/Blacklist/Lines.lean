import MainsCharts.Proofs.Blacklist.Ranges
import MainsCharts.Proofs.Text.Pieces

/-!
# Blacklists line by line

A blacklist that is valid text is read line by line.  Each line adds its range or its warning to
those of the others, in their order, and nothing else (`read_encode`).

A line should hold a range and nothing else in front of its comment.  One that holds something
else is malformed, and it is skipped with one warning as long as no pair of numbers that fit can
be found anywhere on it.  Where there is such a pair the line is taken for a range after all,
without a warning (`malformed_skipped_iff`).  So the time of day in a date is read as a range of
seconds (`clockTime_taken`).
-/

namespace MainsCharts.Blacklist

set_option autoImplicit false

open Numeral Text

/-! ## Reading -/

/-- The ranges that a line adds. -/
def Entry.ranges : Entry → Blacklist
  | .range found => [found]
  | _ => []

/-- The warnings about a line with the given number. -/
def Entry.warnings (number : Nat) (line : List Char) : Entry → List Event
  | .malformed => [.blacklistLineSkipped number (String.ofList line)]
  | _ => []

/-- The ranges on several lines. -/
def rangesOf (lines : List (List Char)) : Blacklist :=
  lines.flatMap fun line => (entry line).ranges

/-- The warnings about several lines, the first of which has the given number. -/
def warningsFrom : Nat → List (List Char) → List Event
  | _, [] => []
  | number, line :: rest => (entry line).warnings number line ++ warningsFrom (number + 1) rest

theorem readLines_map_some (number : Nat) (lines : List (List Char)) :
    readLines number (lines.map some) = ⟨.ok (rangesOf lines), warningsFrom number lines⟩ := by
  induction lines generalizing number with
  | nil => rfl
  | cons line lines ih =>
      rw [List.map_cons, readLines, ih, warningsFrom]
      unfold rangesOf
      rw [List.flatMap_cons]
      cases entry line <;> rfl

/-- The lines of a text without their terminators. -/
def bareLines (text : List Char) : List (List Char) :=
  (cutLines text).map withoutTerminator

/-- **A blacklist is read line by line.** -/
theorem read_encode (text : List Char) :
    read (Utf8.encode text) =
      ⟨.ok (rangesOf (bareLines text)), warningsFrom 1 (bareLines text)⟩ := by
  have bare : lines (Utf8.encode text) = (bareLines text).map some := by
    rw [lines_encode, bareLines, List.map_map]
    rfl
  rw [read, bare, readLines_map_some]

theorem rangesOf_append (lines others : List (List Char)) :
    rangesOf (lines ++ others) = rangesOf lines ++ rangesOf others :=
  List.flatMap_append

theorem warningsFrom_append (number : Nat) (lines others : List (List Char)) :
    warningsFrom number (lines ++ others) =
      warningsFrom number lines ++ warningsFrom (number + lines.length) others := by
  induction lines generalizing number with
  | nil => rfl
  | cons line lines ih =>
      rw [List.cons_append, warningsFrom, ih, warningsFrom, List.append_assoc, List.length_cons,
        Nat.add_assoc, Nat.add_comm 1]

/-- Whether an event is about the line of a blacklist with the given number. -/
def isAbout (number : Nat) : Event → Bool
  | .blacklistLineSkipped other _ => other == number
  | _ => false

/-- The warnings about some lines are about none before and none behind these. -/
theorem isAbout_eq_false {number other : Nat} {lines : List (List Char)}
    (apart : other < number ∨ number + lines.length ≤ other) :
    ∀ event ∈ warningsFrom number lines, isAbout other event = false := by
  induction lines generalizing number with
  | nil => exact nofun
  | cons line lines ih =>
      rw [List.length_cons] at apart
      rw [warningsFrom, List.forall_mem_append]
      constructor
      · intro event member
        cases read : entry line with
        | nothing => rw [read] at member; exact nomatch member
        | range range => rw [read] at member; exact nomatch member
        | malformed =>
            rw [read] at member
            obtain rfl := List.mem_singleton.mp member
            rw [isAbout, beq_eq_false_iff_ne]
            omega
      · exact ih (by omega)

/-! ## Malformed lines -/

/-- That a text is a range and nothing else. -/
def IsRangeText (text : List Char) : Prop :=
  ∃ first second, text = first ++ ':' :: second ∧ IsDigits first ∧ IsDigits second ∧
    digitsValue first ≤ greatestWord ∧ digitsValue second ≤ greatestWord

/-- There are only digits and a colon in a range. -/
theorem IsRangeText.isDigit_or_eq {text : List Char} (isRangeText : IsRangeText text) :
    ∀ character ∈ text, character.isDigit = true ∨ character = ':' := by
  obtain ⟨first, second, rfl, isFirst, isSecond, -⟩ := isRangeText
  rw [List.forall_mem_append, List.forall_mem_cons]
  exact ⟨fun digit member => .inl (isFirst.2 digit member), .inr rfl,
    fun digit member => .inl (isSecond.2 digit member)⟩

/-- That a line has something in front of its comment, and this is not a range. -/
structure IsMalformed (line : List Char) : Prop where
  content : trim (withoutComment line) ≠ []
  other : ¬ IsRangeText (trim (withoutComment line))

theorem IsMalformed.entry_eq {line : List Char} (malformed : IsMalformed line) :
    entry line =
      match range? (withoutComment line) with
      | some range => .range range
      | none => .malformed := by
  rw [entry]
  exact if_neg (mt List.isEmpty_iff.mp malformed.content)

section Lines

variable {text line : List Char} {earlier later : List (List Char)} {range : TimeRange}

/-- A text of several lines with a blank one among them. -/
def withBlankLine (earlier later : List (List Char)) : List Char :=
  (earlier ++ ['\n'] :: later).flatten

/-- That a line of a text adds nothing but one warning: were the line blank, there would be the
same ranges and the same warnings about other lines. -/
structure IsSkipped (text : List Char) (earlier : List (List Char)) (line : List Char)
    (later : List (List Char)) : Prop where
  ranges : (read (Utf8.encode text)).outcome =
    (read (Utf8.encode (withBlankLine earlier later))).outcome
  warned : (read (Utf8.encode text)).warnings.filter (isAbout (earlier.length + 1)) =
    [.blacklistLineSkipped (earlier.length + 1) (String.ofList (withoutTerminator line))]
  others : ((read (Utf8.encode text)).warnings.filter fun event =>
      !isAbout (earlier.length + 1) event) =
    (read (Utf8.encode (withBlankLine earlier later))).warnings

/-- That a line of a text adds nothing but a range, behind those of the lines before it. -/
structure IsTaken (text : List Char) (earlier later : List (List Char)) (range : TimeRange) :
    Prop where
  ranges : ∃ before behind,
    (read (Utf8.encode earlier.flatten)).outcome = .ok before ∧
    (read (Utf8.encode (withBlankLine earlier later))).outcome = .ok (before ++ behind) ∧
    (read (Utf8.encode text)).outcome = .ok (before ++ range :: behind)
  warnings : (read (Utf8.encode text)).warnings =
    (read (Utf8.encode (withBlankLine earlier later))).warnings

/-- A line of a text may be left blank. -/
theorem cutLines_withBlankLine (lines : cutLines text = earlier ++ line :: later) :
    cutLines (withBlankLine earlier later) = earlier ++ ['\n'] :: later := by
  have isCut := isCut_cutLines text
  rw [lines] at isCut
  refine cutLines_flatten ?_
  clear lines
  -- Only the last line may go without a line feed, and no line follows that one.
  induction earlier with
  | nil =>
      rw [List.nil_append] at isCut ⊢
      cases isCut with
      | last => exact .cons List.not_mem_nil .nil
      | cons _ rest => exact .cons List.not_mem_nil rest
  | cons first earlier ih =>
      rw [List.cons_append] at isCut ⊢
      generalize split : earlier ++ line :: later = rest at isCut
      cases isCut with
      | last => exact absurd split (List.append_ne_nil_of_right_ne_nil _ (List.cons_ne_nil _ _))
      | cons plain others => exact .cons plain (ih (split ▸ others))

/-- The lines before a line of a text are those of a text too. -/
theorem cutLines_flatten_earlier (lines : cutLines text = earlier ++ line :: later) :
    cutLines earlier.flatten = earlier := by
  have isCut := isCut_cutLines text
  rw [lines, ← arePieces_map_encode_iff, List.map_append] at isCut
  exact cutLines_flatten (arePieces_map_encode_iff.mp isCut.of_append)

/-- What is read from a text, seen from one of its lines. -/
theorem read_encode_split (lines : cutLines text = earlier ++ line :: later) :
    read (Utf8.encode text) =
      ⟨.ok (rangesOf (earlier.map withoutTerminator) ++
          ((entry (withoutTerminator line)).ranges ++ rangesOf (later.map withoutTerminator))),
        warningsFrom 1 (earlier.map withoutTerminator) ++
          ((entry (withoutTerminator line)).warnings (earlier.length + 1)
              (withoutTerminator line) ++
            warningsFrom (earlier.length + 2) (later.map withoutTerminator))⟩ := by
  rw [read_encode, bareLines, lines, List.map_append, List.map_cons, rangesOf_append,
    warningsFrom_append, warningsFrom, List.length_map, Nat.add_comm 1]
  rfl

/-- What is read from a text with a blank line. -/
theorem read_encode_withBlankLine (lines : cutLines text = earlier ++ line :: later) :
    read (Utf8.encode (withBlankLine earlier later)) =
      ⟨.ok (rangesOf (earlier.map withoutTerminator) ++ rangesOf (later.map withoutTerminator)),
        warningsFrom 1 (earlier.map withoutTerminator) ++
          warningsFrom (earlier.length + 2) (later.map withoutTerminator)⟩ := by
  rw [read_encode_split (cutLines_withBlankLine lines)]
  rfl

theorem isSkipped_of_entry (lines : cutLines text = earlier ++ line :: later)
    (read : entry (withoutTerminator line) = .malformed) : IsSkipped text earlier line later := by
  have before : ∀ event ∈ warningsFrom 1 (earlier.map withoutTerminator),
      isAbout (earlier.length + 1) event = false :=
    isAbout_eq_false (.inr (by rw [List.length_map, Nat.add_comm]))
  have behind : ∀ event ∈ warningsFrom (earlier.length + 2) (later.map withoutTerminator),
      isAbout (earlier.length + 1) event = false :=
    isAbout_eq_false (.inl (Nat.lt_succ_self _))
  have here : isAbout (earlier.length + 1) (.blacklistLineSkipped (earlier.length + 1)
      (String.ofList (withoutTerminator line))) = true := beq_self_eq_true _
  constructor
  case ranges =>
    rw [read_encode_withBlankLine lines, read_encode_split lines, read]
    rfl
  case warned =>
    rw [read_encode_split lines, read]
    simp only [Entry.warnings, List.filter_append, List.singleton_append,
      List.filter_cons_of_pos here,
      List.filter_eq_nil_iff.mpr fun event member => Bool.eq_false_iff.mp (before event member),
      List.filter_eq_nil_iff.mpr fun event member => Bool.eq_false_iff.mp (behind event member),
      List.nil_append]
  case others =>
    have kept {events : List Event}
        (apart : ∀ event ∈ events, isAbout (earlier.length + 1) event = false) :
        (events.filter fun event => !isAbout (earlier.length + 1) event) = events :=
      List.filter_eq_self.mpr fun event member => by rw [apart event member]; rfl
    rw [read_encode_withBlankLine lines, read_encode_split lines, read]
    simp only [Entry.warnings, List.filter_append, List.singleton_append, kept before]
    rw [List.filter_cons_of_neg (by rw [here]; decide), kept behind]

theorem isTaken_of_entry (lines : cutLines text = earlier ++ line :: later)
    (read : entry (withoutTerminator line) = .range range) : IsTaken text earlier later range := by
  constructor
  case ranges =>
    refine ⟨rangesOf (earlier.map withoutTerminator), rangesOf (later.map withoutTerminator), ?_⟩
    rw [read_encode_withBlankLine lines, read_encode_split lines, read, read_encode, bareLines,
      cutLines_flatten_earlier lines]
    exact ⟨rfl, rfl, rfl⟩
  case warnings =>
    rw [read_encode_withBlankLine lines, read_encode_split lines, read]
    rfl

/-- A line that adds a range is not skipped. -/
theorem IsTaken.not_isSkipped (isTaken : IsTaken text earlier later range) :
    ¬ IsSkipped text earlier line later := by
  intro isSkipped
  obtain ⟨before, behind, -, without, withRange⟩ := isTaken.ranges
  have same := isSkipped.ranges
  rw [without, withRange, Except.ok.injEq] at same
  have lengths := congrArg List.length same
  simp only [List.length_append, List.length_cons] at lengths
  omega

/-- **A malformed line is skipped exactly when there are no two numbers on it that may be taken for
a range**, and it is taken for one otherwise. -/
theorem malformed_skipped_iff (lines : cutLines text = earlier ++ line :: later)
    (malformed : IsMalformed (withoutTerminator line)) :
    (IsSkipped text earlier line later ↔
      ∀ range, ¬ HasRange (withoutComment (withoutTerminator line)) range) ∧
    ∀ range, HasRange (withoutComment (withoutTerminator line)) range →
      IsTaken text earlier later range := by
  have taken (range : TimeRange)
      (hasRange : HasRange (withoutComment (withoutTerminator line)) range) :
      IsTaken text earlier later range := by
    refine isTaken_of_entry lines ?_
    rw [malformed.entry_eq, range?_eq_some_iff.mpr hasRange]
  refine ⟨⟨?_, ?_⟩, taken⟩
  · intro isSkipped range hasRange
    exact (taken range hasRange).not_isSkipped isSkipped
  · -- Without a range the line has content still, so it is not passed over in silence.
    intro missing
    refine isSkipped_of_entry lines ?_
    rw [malformed.entry_eq, range?_eq_none_iff.mpr missing]

end Lines

/-- A line without numbers is skipped. -/
theorem malformed_skipped_words :
    cutLines "100:200\nnot a range\n300:400\n".toList =
      ["100:200\n".toList] ++ "not a range\n".toList :: ["300:400\n".toList] ∧
    IsMalformed (withoutTerminator "not a range\n".toList) ∧
    IsSkipped "100:200\nnot a range\n300:400\n".toList ["100:200\n".toList] "not a range\n".toList
      ["300:400\n".toList] := by
  have lines : cutLines "100:200\nnot a range\n300:400\n".toList =
      ["100:200\n".toList] ++ "not a range\n".toList :: ["300:400\n".toList] := by decide
  have malformed : IsMalformed (withoutTerminator "not a range\n".toList) := by
    constructor
    · decide
    · intro isRangeText
      have letter := isRangeText.isDigit_or_eq 'n' (by decide)
      exact absurd letter (by decide)
  refine ⟨lines, malformed, (malformed_skipped_iff lines malformed).1.mpr ?_⟩
  exact range?_eq_none_iff.mp (by decide)

/-- A line with a date and a time of day is malformed, and yet adds a range. -/
theorem clockTime_taken :
    cutLines "2020-01-01 12:30\n".toList = [] ++ "2020-01-01 12:30\n".toList :: [] ∧
    IsMalformed (withoutTerminator "2020-01-01 12:30\n".toList) ∧
    ¬ IsSkipped "2020-01-01 12:30\n".toList [] "2020-01-01 12:30\n".toList [] ∧
    read (Utf8.encode "2020-01-01 12:30\n".toList) = ⟨.ok [⟨12, 30⟩], []⟩ := by
  have lines : cutLines "2020-01-01 12:30\n".toList =
      [] ++ "2020-01-01 12:30\n".toList :: [] := by decide
  have isRange : entry (withoutTerminator "2020-01-01 12:30\n".toList) = .range ⟨12, 30⟩ := by
    decide
  refine ⟨lines, ?_, (isTaken_of_entry lines isRange).not_isSkipped, ?_⟩
  · constructor
    · decide
    · intro isRangeText
      have hyphen := isRangeText.isDigit_or_eq '-' (by decide)
      exact absurd hyphen (by decide)
  · rw [read_encode_split lines, isRange]
    rfl

end MainsCharts.Blacklist
