import MainsCharts.Probe
import MainsCharts.Proofs.Numeral.Denotation
import MainsCharts.Proofs.Report.Reading

/-!
# What the renderer answers to a probe

The renderer prints a scalar with six decimals, or the word for what is not a number
(`PrintedScalar`), in the place that the format of the element leaves for it
(`formatted`).  What it prints for the targets of a probe (`answers?`) is read as their
values again, whatever it has said before (`ofReport_answers`).

The lines before the answers must not look like an answer themselves.  White space in
front of a label does not keep a line from that, since the lines of a report are trimmed.
-/

namespace MainsCharts

set_option autoImplicit false

open Numeral Text
open Float.Model (UnpackedFloat)

/-! ## Printed scalars -/

/-- A number as it is printed: a sign, digits, a decimal mark and six decimals. -/
structure PrintedNumber where
  sign : UnpackedFloat.Sign
  whole : List Char
  mark : Char
  decimals : List Char
  whole_ne_nil : whole ≠ []
  isDigit_whole : whole.all Char.isDigit = true
  isDecimalMark_mark : isDecimalMark mark = true
  isDigit_decimals : decimals.all Char.isDigit = true
  length_decimals : decimals.length = 6
  isFinite_value :
    (Literal.toFloat ⟨sign == .negative, digitsValue (whole ++ decimals), -6⟩).isFinite = true

theorem isDecimalMark_iff {character : Char} :
    isDecimalMark character = true ↔ character = '.' ∨ character = ',' := by
  rw [isDecimalMark, Bool.or_eq_true, decide_eq_true_eq, decide_eq_true_eq]

namespace PrintedNumber

/-- The number as text. -/
def text (number : PrintedNumber) : List Char :=
  signText number.sign ++ (number.whole ++ number.mark :: number.decimals)

/-- The double nearest to the number. -/
def value (number : PrintedNumber) : Float :=
  Literal.toFloat
    ⟨number.sign == .negative, digitsValue (number.whole ++ number.decimals), -6⟩

theorem read?_text (number : PrintedNumber) :
    Literal.read? isDecimalMark number.text =
      some ⟨number.sign == .negative, digitsValue (number.whole ++ number.decimals), -6⟩ := by
  have noDigit : number.mark.isDigit = false := by
    rcases isDecimalMark_iff.mp number.isDecimalMark_mark with stop | comma
    · rw [stop]; decide
    · rw [comma]; decide
  rw [text, read?_of_fraction number.sign number.whole_ne_nil number.isDigit_whole
    (List.takeWhile_cons_of_neg (by simp [noDigit]))
    (List.dropWhile_cons_of_neg (by simp [noDigit]))
    (splitFraction_cons number.isDecimalMark_mark number.isDigit_decimals),
    number.length_decimals]
  rfl

end PrintedNumber

/-- What is printed for a scalar. -/
inductive PrintedScalar where
  | known (number : PrintedNumber)
  | unknown (sign : UnpackedFloat.Sign)

namespace PrintedScalar

/-- The scalar as text. -/
def text : PrintedScalar → List Char
  | known number => number.text
  | unknown sign => signText sign ++ ['n', 'a', 'n']

/-- The value of the scalar, if it is known. -/
def value? : PrintedScalar → Option Float
  | known number => some number.value
  | unknown _ => none

theorem isSolid_signText (sign : UnpackedFloat.Sign) : IsSolid (signText sign) := by
  cases sign <;> exact isSolid_of_all (by decide)

/-- There is no white space in what is printed. -/
theorem isSolid_text (scalar : PrintedScalar) : IsSolid scalar.text := by
  cases scalar with
  | unknown sign => exact (isSolid_signText sign).append (isSolid_of_all (by decide))
  | known number =>
      have mark : isBlank number.mark = false := by
        rcases isDecimalMark_iff.mp number.isDecimalMark_mark with stop | comma
        · rw [stop]; decide
        · rw [comma]; decide
      exact (isSolid_signText number.sign).append
        ((isSolid_of_isDigit number.isDigit_whole).append
          (.cons mark (isSolid_of_isDigit number.isDigit_decimals)))

/-- What is printed is read as the value, if there is one. -/
theorem read?_text (scalar : PrintedScalar) :
    ((Literal.read? isDecimalMark scalar.text).bind fun literal =>
      if literal.toFloat.isFinite then some literal.toFloat else none) = scalar.value? := by
  cases scalar with
  | unknown sign => cases sign <;> rfl
  | known number =>
      rw [text, number.read?_text, Option.bind_some, if_pos number.isFinite_value]
      rfl

end PrintedScalar

/-! ## Answers -/

/-- A format with a value in the place that it leaves for one.  A colon has a backslash in
front of it. -/
def formatted (value : List Char) : List Char → List Char
  | [] => []
  | '\\' :: ':' :: rest => ':' :: formatted value rest
  | '%' :: 'l' :: 'f' :: rest => value ++ formatted value rest
  | character :: rest => character :: formatted value rest

/-- The line that answers an element, if it asks for the scalar of a name. -/
def answer? (name : String) (scalar : PrintedScalar) (argument : String) : Option (List Char) :=
  (after? ("PRINT:" ++ name ++ ":").toList argument.toList).map (formatted scalar.text)

/-- The lines that answer elements, each of which asks for the next scalar. -/
def answers? : List (String × PrintedScalar) → List String → Option (List (List Char))
  | [], [] => some []
  | (name, scalar) :: scalars, argument :: arguments => do
      let line ← answer? name scalar argument
      return line :: (← answers? scalars arguments)
  | _, _ => none

/-- The line that answers for a label. -/
def answerLine (label : String) (scalar : PrintedScalar) : List Char :=
  label.toList ++ ':' :: scalar.text

namespace ProbeTargets

/-- The targets, each with what is printed for it. -/
def asked (targets : ProbeTargets) (least greatest : PrintedScalar) :
    List (String × PrintedScalar) :=
  targets.least.toList.map (·, least) ++ targets.greatest.toList.map (·, greatest)

/-- The lines that answer for the targets. -/
def answerLines (targets : ProbeTargets) (least greatest : PrintedScalar) : List (List Char) :=
  targets.least.toList.map (fun _ => answerLine ValueBounds.leastLabel least) ++
    targets.greatest.toList.map (fun _ => answerLine ValueBounds.greatestLabel greatest)

end ProbeTargets

/-- The label that an element carries comes out of its format again, with a colon. -/
theorem answer?_print {label : String}
    (isLabel : label = ValueBounds.leastLabel ∨ label = ValueBounds.greatestLabel) (name : String)
    (scalar : PrintedScalar) :
    answer? name scalar (Element.print name label).text = some (answerLine label scalar) := by
  have split : after? ("PRINT:" ++ name ++ ":").toList (Element.print name label).text.toList =
      some (field label ++ "\\:%lf").toList := by
    rw [after?_eq_some_iff, Element.text, ← String.toList_append, String.append_assoc]
  have formats : formatted scalar.text (field label ++ "\\:%lf").toList =
      label.toList ++ ':' :: (scalar.text ++ []) := by
    rcases isLabel with rfl | rfl <;> rfl
  rw [answer?, split, Option.map_some, formats, List.append_nil, answerLine]

theorem answers?_arguments (targets : ProbeTargets) (least greatest : PrintedScalar) :
    answers? (targets.asked least greatest) targets.arguments =
      some (targets.answerLines least greatest) := by
  have first (name : String) := answer?_print (.inl rfl) name least
  have second (name : String) := answer?_print (.inr rfl) name greatest
  obtain ⟨least?, greatest?⟩ := targets
  cases least? <;> cases greatest? <;>
    simp [ProbeTargets.asked, ProbeTargets.arguments, ProbeTargets.elements, ProbeTargets.printed,
      ProbeTargets.answerLines, answers?, first, second]

/-! ## Reading the answers -/

namespace ValueBounds

theorem labelled?_answerLine (label : String) (scalar : PrintedScalar) :
    labelled? label (answerLine label scalar) = scalar.value? := by
  have split : after? (label.toList ++ [':']) (answerLine label scalar) = some scalar.text := by
    rw [after?_eq_some_iff, answerLine, List.append_assoc, List.singleton_append]
  have trimmed := trim_eq_self scalar.isSolid_text
  rw [labelled?, split, ← scalar.read?_text]
  exact congrArg (fun text => (Literal.read? isDecimalMark text).bind _) trimmed

theorem labelled?_eq_none {label : String} {line : List Char}
    (other : ¬ label.toList ++ [':'] <+: line) : labelled? label line = none := by
  have unsplit : after? (label.toList ++ [':']) line = none := by
    rw [Option.eq_none_iff_forall_ne_some]
    intro rest split
    exact other ⟨rest, (after?_eq_some_iff.mp split).symm⟩
  rw [labelled?, unsplit]
  rfl

/-- Lines without a label in front of others do not count. -/
theorem lastLabelled?_append {label : String} {before : List (List Char)}
    (unlabelled : ∀ line ∈ before, labelled? label line = none) (lines : List (List Char)) :
    lastLabelled? label (before ++ lines) = lastLabelled? label lines := by
  have nothing : before.reverse.findSome? (labelled? label) = none := by
    rw [List.findSome?_eq_none_iff]
    intro line member
    exact unlabelled line (List.mem_reverse.mp member)
  rw [lastLabelled?, lastLabelled?, List.reverse_append, List.findSome?_append, nothing,
    Option.or_none]

end ValueBounds

/-- A line that may come before the answers: it is not blank and does not start like an
answer, once the white space around it is removed. -/
structure Precedes (line : List Char) : Prop where
  noLineFeed : '\n' ∉ line
  notBlank : trim line ≠ []
  notLeast : ¬ "MIN:".toList <+: trim line
  notGreatest : ¬ "MAX:".toList <+: trim line

/-- Lines in front of others that have no white space in them make no difference. -/
theorem ofReport_append {before lines : List (List Char)}
    (precedes : ∀ line ∈ before, Precedes line)
    (solid : ∀ line ∈ lines, line ≠ [] ∧ IsSolid line) :
    ValueBounds.ofReport (Utf8.encode (reportText (before ++ lines))) =
      (ValueBounds.ofLines lines).mapError .detection := by
  have plain : ∀ line ∈ before ++ lines, '\n' ∉ line := by
    intro line member
    rcases List.mem_append.mp member with first | last
    · exact (precedes line first).noLineFeed
    · intro newline
      exact nomatch (solid line last).2 '\n' newline
  have trimmed : (before ++ lines).map trim = before.map trim ++ lines := by
    rw [List.map_append]
    congr 1
    exact (List.map_congr_left fun line member => trim_eq_self (solid line member).2).trans
      (List.map_id lines)
  have kept : ∀ line ∈ before.map trim ++ lines, (!line.isEmpty) = true := by
    simp only [List.mem_append, List.mem_map, Bool.not_eq_true', List.isEmpty_eq_false_iff]
    rintro line (⟨other, member, rfl⟩ | member)
    · exact (precedes other member).notBlank
    · exact (solid line member).1
  have unlabelled (label : String)
      (foreign : ∀ line, Precedes line → ¬ label.toList ++ [':'] <+: trim line) :
      ∀ line ∈ before.map trim, ValueBounds.labelled? label line = none := by
    simp only [List.mem_map]
    rintro line ⟨other, member, rfl⟩
    exact ValueBounds.labelled?_eq_none (foreign other (precedes other member))
  have leastForeign := unlabelled ValueBounds.leastLabel fun _ before => before.notLeast
  have greatestForeign := unlabelled ValueBounds.greatestLabel fun _ before => before.notGreatest
  rw [ValueBounds.ofReport, reportLines_encode plain, trimmed, List.takeWhile_eq_self_iff.mpr kept]
  change (ValueBounds.ofLines (before.map trim ++ lines)).mapError _ = _
  rw [ValueBounds.ofLines, ValueBounds.lastLabelled?_append leastForeign,
    ValueBounds.lastLabelled?_append greatestForeign, ValueBounds.ofLines]

namespace ProbeTargets

variable (targets : ProbeTargets) (least greatest : PrintedScalar)

/-- The value of a target, if there is one and it is known. -/
def valueOf (target : Option String) (scalar : PrintedScalar) : Option Float :=
  target.bind fun _ => scalar.value?

theorem lastLabelled?_least :
    ValueBounds.lastLabelled? ValueBounds.leastLabel (targets.answerLines least greatest) =
      valueOf targets.least least := by
  have own := ValueBounds.labelled?_answerLine ValueBounds.leastLabel least
  have other : ValueBounds.labelled? ValueBounds.leastLabel
      (answerLine ValueBounds.greatestLabel greatest) = none := rfl
  obtain ⟨_ | _, _ | _⟩ := targets <;>
    simp [ValueBounds.lastLabelled?, answerLines, valueOf, own, other]

theorem lastLabelled?_greatest :
    ValueBounds.lastLabelled? ValueBounds.greatestLabel (targets.answerLines least greatest) =
      valueOf targets.greatest greatest := by
  have own := ValueBounds.labelled?_answerLine ValueBounds.greatestLabel greatest
  have other : ValueBounds.labelled? ValueBounds.greatestLabel
      (answerLine ValueBounds.leastLabel least) = none := rfl
  obtain ⟨_ | _, _ | _⟩ := targets <;> cases known : greatest.value? <;>
    simp [ValueBounds.lastLabelled?, answerLines, valueOf, own, other, known]

theorem isSolid_of_mem_answerLines :
    ∀ line ∈ targets.answerLines least greatest, line ≠ [] ∧ IsSolid line := by
  have solid {label : String} (scalar : PrintedScalar) (labelSolid : IsSolid label.toList) :
      answerLine label scalar ≠ [] ∧ IsSolid (answerLine label scalar) :=
    ⟨by simp [answerLine], labelSolid.append (.cons (by decide) scalar.isSolid_text)⟩
  intro line member
  simp only [answerLines, List.mem_append, List.mem_map, Option.mem_toList] at member
  rcases member with ⟨name, -, rfl⟩ | ⟨name, -, rfl⟩
  · exact solid least (isSolid_of_all (by decide))
  · exact solid greatest (isSolid_of_all (by decide))

/-- **What is asked for is read from the answers.** -/
theorem ofReport_answers :
    ∃ lines, answers? (targets.asked least greatest) targets.arguments = some lines ∧
      ∀ before, (∀ line ∈ before, Precedes line) →
        (∀ low high, valueOf targets.least least = some low →
          valueOf targets.greatest greatest = some high → high ≤ low →
          ValueBounds.ofReport (Utf8.encode (reportText (before ++ lines))) =
            .error (.detection (.boundsInverted low high))) ∧
        ((∀ low high, valueOf targets.least least = some low →
          valueOf targets.greatest greatest = some high → ¬ high ≤ low) →
          ValueBounds.ofReport (Utf8.encode (reportText (before ++ lines))) =
            .ok ⟨valueOf targets.least least, valueOf targets.greatest greatest⟩) := by
  refine ⟨_, answers?_arguments targets least greatest, ?_⟩
  intro before precedes
  rw [ofReport_append precedes (isSolid_of_mem_answerLines targets least greatest),
    ValueBounds.ofLines, lastLabelled?_least, lastLabelled?_greatest]
  cases valueOf targets.least least with
  | none => exact ⟨nofun, fun _ => rfl⟩
  | some low =>
      cases valueOf targets.greatest greatest with
      | none => exact ⟨nofun, fun _ => rfl⟩
      | some high =>
          constructor
          · rintro _ _ ⟨⟩ ⟨⟩ crossed
            dsimp only
            rw [if_pos crossed]
            rfl
          · intro ordered
            dsimp only
            rw [if_neg (ordered low high rfl rfl)]
            rfl

/-- Half a unit below fifty, with a decimal comma. -/
def belowFifty : PrintedNumber where
  sign := .positive
  whole := ['4', '9']
  mark := ','
  decimals := ['5', '0', '0', '0', '0', '0']
  whole_ne_nil := by decide
  isDigit_whole := by decide
  isDecimalMark_mark := by decide
  isDigit_decimals := by decide
  length_decimals := by decide
  isFinite_value := by decide +kernel

/-- Half a unit above fifty, with a decimal point. -/
def aboveFifty : PrintedNumber where
  sign := .positive
  whole := ['5', '0']
  mark := '.'
  decimals := ['5', '0', '0', '0', '0', '0']
  whole_ne_nil := by decide
  isDigit_whole := by decide
  isDecimalMark_mark := by decide
  isDigit_decimals := by decide
  length_decimals := by decide
  isFinite_value := by decide +kernel

theorem ofReport_answers_aroundFifty :
    ∃ lines, answers? (asked ⟨some "f_min", some "f_max"⟩ (.known belowFifty) (.known aboveFifty))
        (arguments ⟨some "f_min", some "f_max"⟩) = some lines ∧
      Precedes "0x0".toList ∧
      ValueBounds.ofReport (Utf8.encode (reportText ("0x0".toList :: lines))) =
        .ok ⟨some belowFifty.value, some aboveFifty.value⟩ := by
  obtain ⟨lines, answered, reads⟩ := ofReport_answers ⟨some "f_min", some "f_max"⟩
    (.known belowFifty) (.known aboveFifty)
  have precedes : Precedes "0x0".toList := ⟨by decide, by decide, by decide, by decide⟩
  refine ⟨lines, answered, precedes, (reads ["0x0".toList] (by simpa using precedes)).2 ?_⟩
  rintro _ _ ⟨⟩ ⟨⟩
  decide +kernel

/-- A label behind a space is an answer too, although the line does not start with it. -/
theorem spaced_label_answers :
    ∃ lines, answers? (asked ⟨some "f_min", none⟩ (.known belowFifty) (.unknown .positive))
        (arguments ⟨some "f_min", none⟩) = some lines ∧
      ('\n' ∉ " MAX:99".toList ∧ trim " MAX:99".toList ≠ [] ∧
        ¬ "MIN:".toList <+: " MAX:99".toList ∧ ¬ "MAX:".toList <+: " MAX:99".toList) ∧
      ValueBounds.ofReport (Utf8.encode (reportText (" MAX:99".toList :: lines))) ≠
        .ok ⟨some belowFifty.value, none⟩ := by
  refine ⟨_, answers?_arguments _ _ _, ⟨by decide, by decide, by decide, by decide⟩, ?_⟩
  intro same
  have found : ((ValueBounds.ofReport (Utf8.encode (reportText (" MAX:99".toList ::
      answerLines ⟨some "f_min", none⟩ (.known belowFifty) (.unknown .positive))))).toOption.bind
      ValueBounds.greatest).isSome = true := by decide +kernel
  rw [same] at found
  exact nomatch found

end ProbeTargets

end MainsCharts
