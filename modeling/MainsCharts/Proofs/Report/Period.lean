import MainsCharts.Report
import MainsCharts.Proofs.Numeral.Digits
import MainsCharts.Proofs.Report.Framing
import MainsCharts.Proofs.Report.Reading

/-!
# The period that a report gives

A line gives a number for a field when it starts with the field, and the digits behind that, as
many as there are, stand for a number that fits sixty-four bits with a sign (`Gives`).  For each
field the last line that gives a number counts, so a later line with too many digits takes nothing
back.  This describes the period of a report without any reading of it (`HasPeriod`), and it is
what is read (`ofReport_eq_iff`).

A period is only given when it does not end before it starts, and it starts no earlier than the
epoch, since no number is negative.  So its length can be computed in sixty-four bits, and is the
time from its start to its end (`HasPeriod.isForward`).
-/

namespace MainsCharts.Period

set_option autoImplicit false

open Numeral Text

variable {field : PeriodField} {line : List Char} {lines : List (List Char)} {value : Nat}
  {report : List UInt8}

/-! ## Lines -/

/-- That a line gives a number for a field: it starts with the field, and the run of digits behind
that is not empty and stands for this number, which fits. -/
def Gives (field : PeriodField) (line : List Char) (value : Nat) : Prop :=
  ∃ digits rest, line = (field.label ++ " = ").toList ++ (digits ++ rest) ∧ IsDigits digits ∧
    Undigited rest ∧ digitsValue digits = value ∧ value ≤ greatestSigned

/-- **The number on a line** is the one that the line gives. -/
theorem fieldValue?_eq_some_iff : fieldValue? field line = some value ↔ Gives field line value := by
  unfold fieldValue?
  simp only [bind, Option.bind_eq_some_iff, after?_eq_some_iff, digitsUpTo?_eq_some_iff]
  constructor
  · rintro ⟨rest, rfl, isDigits, same, fits⟩
    refine ⟨rest.takeWhile Char.isDigit, rest.dropWhile Char.isDigit, ?_, isDigits,
      undigited_dropWhile rest, same, fits⟩
    rw [List.takeWhile_append_dropWhile]
  · rintro ⟨digits, rest, rfl, isDigits, undigited, same, fits⟩
    refine ⟨digits ++ rest, rfl, ?_⟩
    rw [(takeWhile_isDigit_of_digits isDigits.2 undigited).1]
    exact ⟨isDigits, same, fits⟩

theorem lastValue?_eq_iff {found : Option Nat} :
    lastValue? field lines = found ↔ GivenLast (Gives field) lines found :=
  findSome?_reverse_eq_iff fun _ _ _ => fieldValue?_eq_some_iff

theorem le_greatestSigned_of_givenLast (given : GivenLast (Gives field) lines (some value)) :
    value ≤ greatestSigned := by
  obtain ⟨_, _, _, _, ⟨_, _, _, _, _, _, fits⟩, _⟩ := given
  exact fits

/-! ## Reports -/

/-- **The period of a report**: the numbers that its last lines give for the two fields.  It is
refused when a field is not given, the start before the end, or when it would end before it starts,
and a report that is not valid text is refused as such. -/
inductive HasPeriod (report : List UInt8) : Except Failure Period → Prop where
  | found {lines : List (List Char)} {start stop : Nat} : IsReading report (.ok lines) →
      GivenLast (Gives .start) lines (some start) → GivenLast (Gives .stop) lines (some stop) →
      start ≤ stop → HasPeriod report (.ok ⟨start, stop⟩)
  | inverted {lines : List (List Char)} {start stop : Nat} : IsReading report (.ok lines) →
      GivenLast (Gives .start) lines (some start) → GivenLast (Gives .stop) lines (some stop) →
      stop < start → HasPeriod report (.error (.detection (.periodInverted start stop)))
  | startMissing {lines : List (List Char)} : IsReading report (.ok lines) →
      GivenLast (Gives .start) lines none →
      HasPeriod report (.error (.detection (.fieldMissing .start)))
  | stopMissing {lines : List (List Char)} {start : Nat} : IsReading report (.ok lines) →
      GivenLast (Gives .start) lines (some start) → GivenLast (Gives .stop) lines none →
      HasPeriod report (.error (.detection (.fieldMissing .stop)))
  | unreadable {failure : Failure} : IsReading report (.error failure) →
      HasPeriod report (.error failure)

theorem ofReport_of_error {failure : Failure} (read : reportLines report = .error failure) :
    ofReport report = .error failure := by
  rw [ofReport, read]
  rfl

theorem ofReport_of_ok (read : reportLines report = .ok lines) :
    ofReport report = (ofLines lines).mapError .detection := by
  rw [ofReport, read]
  rfl

/-- What is read from a report is its period. -/
theorem hasPeriod_ofReport (report : List UInt8) : HasPeriod report (ofReport report) := by
  have isReading := reportLines_eq_iff.mp (Eq.refl (reportLines report))
  cases read : reportLines report with
  | error failure =>
      rw [read] at isReading
      rw [ofReport_of_error read]
      exact .unreadable isReading
  | ok lines =>
      rw [read] at isReading
      have isStart := lastValue?_eq_iff.mp (Eq.refl (lastValue? .start lines))
      have isStop := lastValue?_eq_iff.mp (Eq.refl (lastValue? .stop lines))
      rw [ofReport_of_ok read, ofLines]
      cases start : lastValue? .start lines with
      | none =>
          rw [start] at isStart
          exact .startMissing isReading isStart
      | some start =>
          rw [start] at isStart
          cases stop : lastValue? .stop lines with
          | none =>
              rw [stop] at isStop
              exact .stopMissing isReading isStart isStop
          | some stop =>
              rw [stop] at isStop
              dsimp only
              split
              · rename_i inverted
                exact .inverted isReading isStart isStop inverted
              · rename_i ordered
                exact .found isReading isStart isStop (Nat.le_of_not_lt ordered)

/-- **The period of a report** is what is read from it, and nothing else is. -/
theorem ofReport_eq_iff {outcome : Except Failure Period} :
    ofReport report = outcome ↔ HasPeriod report outcome := by
  constructor
  · rintro rfl
    exact hasPeriod_ofReport report
  · intro hasPeriod
    cases hasPeriod with
    | found isReading isStart isStop ordered =>
        rw [ofReport_of_ok (reportLines_eq_iff.mpr isReading), ofLines,
          lastValue?_eq_iff.mpr isStart, lastValue?_eq_iff.mpr isStop]
        dsimp only
        rw [if_neg (Nat.not_lt.mpr ordered)]
        rfl
    | inverted isReading isStart isStop inverted =>
        rw [ofReport_of_ok (reportLines_eq_iff.mpr isReading), ofLines,
          lastValue?_eq_iff.mpr isStart, lastValue?_eq_iff.mpr isStop]
        dsimp only
        rw [if_pos inverted]
        rfl
    | startMissing isReading isStart =>
        rw [ofReport_of_ok (reportLines_eq_iff.mpr isReading), ofLines,
          lastValue?_eq_iff.mpr isStart]
        rfl
    | stopMissing isReading isStart isStop =>
        rw [ofReport_of_ok (reportLines_eq_iff.mpr isReading), ofLines,
          lastValue?_eq_iff.mpr isStart, lastValue?_eq_iff.mpr isStop]
        rfl
    | unreadable isReading => exact ofReport_of_error (reportLines_eq_iff.mpr isReading)

/-! ## Lengths -/

/-- That a period lies behind the epoch and does not end before it starts, so that its length is
the time between the two, which neither wraps in sixty-four bits nor is cut off at zero. -/
structure IsForward (period : Period) : Prop where
  nonneg : 0 ≤ period.start
  ordered : period.start ≤ period.stop
  fits : period.stop ≤ greatestSigned
  unwrapped :
    (Int64.ofInt period.stop - Int64.ofInt period.start).toInt = period.stop - period.start
  length_eq : (period.length : Int) = period.stop - period.start

/-- The difference of two numbers that are not negative does not wrap. -/
theorem isForward_of_le {start stop : Nat} (ordered : start ≤ stop) (fits : stop ≤ greatestSigned) :
    IsForward ⟨start, stop⟩ := by
  have kept {moment : Nat} (bounded : moment ≤ greatestSigned) :
      (Int64.ofInt moment).toInt = moment := by
    rw [greatestSigned] at bounded
    exact Int64.toInt_ofInt_of_le (by omega) (by omega)
  constructor
  case nonneg => exact Int.natCast_nonneg start
  case ordered => exact Int.ofNat_le.mpr ordered
  case fits => exact Int.ofNat_le.mpr fits
  case unwrapped =>
    rw [Int64.toInt_sub, kept fits, kept (ordered.trans fits)]
    rw [greatestSigned] at fits
    exact Int.bmod_eq_of_le (by omega) (by omega)
  case length_eq => exact Int.toNat_of_nonneg (Int.sub_nonneg.mpr (Int.ofNat_le.mpr ordered))

/-- **A period that is given** has a length. -/
theorem HasPeriod.isForward {period : Period} (hasPeriod : HasPeriod report (.ok period)) :
    period.IsForward := by
  cases hasPeriod with
  | found _ _ isStop ordered =>
      exact isForward_of_le ordered (le_greatestSigned_of_givenLast isStop)

/-- What follows a blank line makes no difference for the period. -/
theorem ofReport_append_blank {blank : List Char} (ends : EndsLine report) (plain : '\n' ∉ blank)
    (isBlank : trim blank = []) (rest : List UInt8) :
    ofReport (report ++ (Utf8.encode blank ++ 0x0A :: rest)) = ofReport report := by
  rw [ofReport, ofReport, reportLines_append_blank ends plain isBlank]

/-- **Reading the period of a report** gives its period and nothing else.  What follows a blank line
is never looked at, and a period that is given has a length. -/
theorem ofReport_settled (report : List UInt8) :
    (∀ outcome, ofReport report = outcome ↔ HasPeriod report outcome) ∧
    (∀ blank rest, EndsLine report → '\n' ∉ blank → trim blank = [] →
      ofReport (report ++ (Utf8.encode blank ++ 0x0A :: rest)) = ofReport report) ∧
    ∀ period, ofReport report = .ok period → period.IsForward :=
  ⟨fun _ => ofReport_eq_iff,
    fun _ rest ends plain isBlank => ofReport_append_blank ends plain isBlank rest,
    fun _ read => (ofReport_eq_iff.mp read).isForward⟩

/-- A report with a carriage return, white space, text behind a number, and a start that is too
large behind one that fits. -/
def paddedReport : List UInt8 :=
  Utf8.encode
    "graph_start = 1000\r\n graph_end = 2000 s\ngraph_start = 9223372036854775808\n".toList

/-- A period, with a byte that is not text behind a blank line. -/
theorem ofReport_settled_padded :
    ofReport (paddedReport ++ (Utf8.encode " \r".toList ++ 0x0A :: [0xFF])) = .ok ⟨1000, 2000⟩ ∧
      IsForward ⟨1000, 2000⟩ := by
  have read : ofReport paddedReport = .ok ⟨1000, 2000⟩ := by rfl
  have ends : EndsLine paddedReport := by decide +kernel
  obtain ⟨_, unread, forward⟩ := ofReport_settled paddedReport
  refine ⟨?_, forward _ read⟩
  rw [unread " \r".toList [0xFF] ends (by decide) (by decide), read]

end MainsCharts.Period
