import MainsCharts.Proofs.Axis.Margin
import MainsCharts.Proofs.Numeral.Grammar
import MainsCharts.Proofs.Numeral.Scientific
import MainsCharts.Proofs.Report.Framing
import MainsCharts.Proofs.Report.Reading

/-!
# The bounds that a report gives

A line gives a value behind a label when there is a numeral behind the label and nothing else, and
the double nearest to the numeral is finite (`Gives`).  The last line that gives one counts
(`GivenLast`).  So the bounds of a report are described without any reading of it (`HasBounds`),
and they are what is read from it (`ofReport_eq_iff`).

The reading is rounded only once, since the double of a literal stores the exact value of the
literal.  And it loses no line, since every numeral is accepted where numbers are read.
-/

namespace MainsCharts.ValueBounds

set_option autoImplicit false

open Numeral Text

variable {label : String} {line : List Char} {lines : List (List Char)} {value : Float}

/-! ## Lines -/

/-- That a line gives a value behind a label: there is a numeral behind the label, perhaps with
white space before it, and the double nearest to what it is written for is this value and finite. -/
def Gives (label : String) (line : List Char) (value : Float) : Prop :=
  ∃ blanks numeral literal, line = label.toList ++ ':' :: (blanks ++ numeral) ∧
    (∀ character ∈ blanks, isBlank character = true) ∧ IsNumeral isDecimalMark numeral literal ∧
    value = literal.toFloat ∧
    ∃ number, IsRounded literal.value number ∧ exactValue? value = some number

/-- There is no white space in a numeral. -/
theorem isSolid_of_isNumeral {numeral : List Char} {literal : Literal}
    (isNumeral : IsNumeral isDecimalMark numeral literal) : IsSolid numeral := by
  refine isNumeral.forall_mem (fun _ => isBlank_of_isDigit) (by decide) (by decide) ?_
  intro mark isMark
  rw [isDecimalMark, Bool.or_eq_true, decide_eq_true_iff, decide_eq_true_iff] at isMark
  rcases isMark with rfl | rfl <;> decide

theorem labelled?_eq_some_iff_trim : labelled? label line = some value ↔
    ∃ rest literal, line = label.toList ++ ':' :: rest ∧
      IsNumeral isDecimalMark (trim rest) literal ∧ value = literal.toFloat ∧
      literal.toFloat.isFinite = true := by
  unfold labelled?
  simp only [bind, Option.bind_eq_some_iff, after?_eq_some_iff, Option.ite_none_right_eq_some,
    read?_eq_some_iff areMarks_isDecimalMark, Option.some.injEq, List.append_assoc,
    List.singleton_append]
  constructor
  · rintro ⟨rest, split, literal, isNumeral, finite, rfl⟩
    exact ⟨rest, literal, split, isNumeral, rfl, finite⟩
  · rintro ⟨rest, literal, split, isNumeral, rfl, finite⟩
    exact ⟨rest, split, literal, isNumeral, finite, rfl⟩

/-- **The number on a line** is the one that the line gives. -/
theorem labelled?_eq_some_iff (isTrimmed : IsTrimmed line) :
    labelled? label line = some value ↔ Gives label line value := by
  rw [labelled?_eq_some_iff_trim]
  constructor
  · rintro ⟨rest, literal, rfl, isNumeral, rfl, finite⟩
    obtain ⟨blanks, behind, split, blankBefore, blankBehind⟩ := exists_trim rest
    -- The line has no white space at its end, so there is none behind the numeral.
    have nothing : behind = [] := by
      rw [split, ← List.cons_append, ← List.append_assoc, ← List.append_assoc] at isTrimmed
      exact isTrimmed.eq_nil_of_append blankBehind
    rw [nothing, List.append_nil] at split
    refine ⟨blanks, trim rest, literal, ?_, blankBefore, isNumeral, rfl,
      Literal.isFinite_toFloat_iff.mp finite⟩
    rw [← split]
  · rintro ⟨blanks, numeral, literal, rfl, blank, isNumeral, rfl, nearest⟩
    have trimmed : trim (blanks ++ numeral) = numeral := by
      have kept := @trim_surrounded blanks numeral [] blank nofun
        (isSolid_of_isNumeral isNumeral).isTrimmed
      rwa [List.append_nil] at kept
    refine ⟨blanks ++ numeral, literal, rfl, ?_, rfl, Literal.isFinite_toFloat_iff.mpr nearest⟩
    rwa [trimmed]

/-! ## Last lines -/

/-- **The last line that gives a value counts.** -/
theorem lastLabelled?_eq_iff (trimmed : ∀ line ∈ lines, IsTrimmed line) {found : Option Float} :
    lastLabelled? label lines = found ↔ GivenLast (Gives label) lines found :=
  findSome?_reverse_eq_iff fun line member _ => labelled?_eq_some_iff (trimmed line member)

/-! ## Reports -/

theorem isTrimmed_of_isReading {report : List UInt8} (isReading : IsReading report (.ok lines)) :
    ∀ line ∈ lines, IsTrimmed line := by
  have trimmed (others : List (List Char)) : ∀ line ∈ others.map trim, IsTrimmed line := by
    intro line member
    obtain ⟨other, -, rfl⟩ := List.mem_map.mp member
    exact isTrimmed_trim other
  cases isReading with
  | ended => exact trimmed _
  | blank => exact trimmed _

/-- **The bounds of a report**: the values that its last lines give behind the two labels.  When
both are given and the greatest is not above the least they are refused, and so is a report that is
not valid text. -/
inductive HasBounds (report : List UInt8) : Except Failure ValueBounds → Prop where
  | found {lines : List (List Char)} {least greatest : Option Float} :
      IsReading report (.ok lines) →
      GivenLast (Gives leastLabel) lines least → GivenLast (Gives greatestLabel) lines greatest →
      (∀ low ∈ least, ∀ high ∈ greatest, ¬ high ≤ low) →
      HasBounds report (.ok ⟨least, greatest⟩)
  | inverted {lines : List (List Char)} {low high : Float} : IsReading report (.ok lines) →
      GivenLast (Gives leastLabel) lines (some low) →
      GivenLast (Gives greatestLabel) lines (some high) → high ≤ low →
      HasBounds report (.error (.detection (.boundsInverted low high)))
  | unreadable {failure : Failure} : IsReading report (.error failure) →
      HasBounds report (.error failure)

/-- The bounds of lines. -/
theorem ofLines_eq (lines : List (List Char)) : ofLines lines =
    match lastLabelled? leastLabel lines, lastLabelled? greatestLabel lines with
    | some low, some high =>
        if high ≤ low then .error (.boundsInverted low high) else .ok ⟨some low, some high⟩
    | least, greatest => .ok ⟨least, greatest⟩ := by
  unfold ofLines
  cases lastLabelled? leastLabel lines with
  | none => rfl
  | some low =>
      cases lastLabelled? greatestLabel lines with
      | none => rfl
      | some high => rfl

/-- What is read from a report are its bounds. -/
theorem hasBounds_ofReport (report : List UInt8) : HasBounds report (ofReport report) := by
  have isReading := reportLines_eq_iff.mp (Eq.refl (reportLines report))
  cases read : reportLines report with
  | error failure =>
      rw [read] at isReading
      rw [ofReport_of_error read]
      exact .unreadable isReading
  | ok lines =>
      rw [read] at isReading
      have trimmed := isTrimmed_of_isReading isReading
      have isLeast := (lastLabelled?_eq_iff trimmed).mp (Eq.refl (lastLabelled? leastLabel lines))
      have isGreatest :=
        (lastLabelled?_eq_iff trimmed).mp (Eq.refl (lastLabelled? greatestLabel lines))
      rw [ofReport_of_ok read, ofLines_eq]
      split
      · rename_i low high foundLow foundHigh
        rw [foundLow] at isLeast
        rw [foundHigh] at isGreatest
        split
        · rename_i inverted
          exact .inverted isReading isLeast isGreatest inverted
        · rename_i ordered
          refine .found isReading isLeast isGreatest ?_
          rintro _ ⟨⟩ _ ⟨⟩
          exact ordered
      · rename_i missing
        refine .found isReading isLeast isGreatest ?_
        intro low isLow high isHigh
        exact absurd isHigh (missing low high isLow)

/-- **The bounds of a report** are what is read from it, and nothing else is. -/
theorem ofReport_eq_iff {report : List UInt8} {outcome : Except Failure ValueBounds} :
    ofReport report = outcome ↔ HasBounds report outcome := by
  constructor
  · rintro rfl
    exact hasBounds_ofReport report
  · intro hasBounds
    cases hasBounds with
    | found isReading isLeast isGreatest ordered =>
        have trimmed := isTrimmed_of_isReading isReading
        rw [ofReport_of_ok (reportLines_eq_iff.mpr isReading), ofLines_eq,
          (lastLabelled?_eq_iff trimmed).mpr isLeast, (lastLabelled?_eq_iff trimmed).mpr isGreatest]
        split
        · rw [if_neg (ordered _ rfl _ rfl)]
          rfl
        · rfl
    | inverted isReading isLeast isGreatest crossed =>
        have trimmed := isTrimmed_of_isReading isReading
        rw [ofReport_of_ok (reportLines_eq_iff.mpr isReading), ofLines_eq,
          (lastLabelled?_eq_iff trimmed).mpr isLeast, (lastLabelled?_eq_iff trimmed).mpr isGreatest]
        dsimp only
        rw [if_pos crossed]
        rfl
    | unreadable isReading => exact ofReport_of_error (reportLines_eq_iff.mpr isReading)

/-- **Reading the bounds of a report** gives its bounds and nothing else.  Those that are given are
finite, the least below the greatest, and no numeral is passed over because it could not be read
as a number. -/
theorem ofReport_exact (report : List UInt8) :
    (∀ outcome, ofReport report = outcome ↔ HasBounds report outcome) ∧
    (∀ bounds, ofReport report = .ok bounds → bounds.IsProper) ∧
    ∀ numeral literal, IsNumeral isDecimalMark numeral literal →
      readNumber (dotted numeral) = .ok literal.toFloat :=
  ⟨fun _ => ofReport_eq_iff, fun _ => isProper_of_ofReport, fun _ _ => IsNumeral.readNumber_dotted⟩

/-- A report with a decimal comma and an exponent, and another line behind a blank one. -/
theorem ofReport_exact_comma :
    ofReport (Utf8.encode "MIN: 49,5\nMAX:505e-1\n \nMAX:1\n".toList) =
      .ok ⟨some 49.5, some 50.5⟩ ∧
    ValueBounds.IsProper ⟨some 49.5, some 50.5⟩ ∧
    IsNumeral isDecimalMark "49,5".toList ⟨false, 495, -1⟩ ∧
    readNumber "49.5".toList = .ok 49.5 := by
  have read : ofReport (Utf8.encode "MIN: 49,5\nMAX:505e-1\n \nMAX:1\n".toList) =
      .ok ⟨some 49.5, some 50.5⟩ := by rfl
  have isNumeral : IsNumeral isDecimalMark "49,5".toList ⟨false, 495, -1⟩ :=
    (read?_eq_some_iff areMarks_isDecimalMark).mp (by decide)
  obtain ⟨-, proper, accepted⟩ :=
    ofReport_exact (Utf8.encode "MIN: 49,5\nMAX:505e-1\n \nMAX:1\n".toList)
  exact ⟨read, proper _ read, isNumeral, accepted _ _ isNumeral⟩

end MainsCharts.ValueBounds
