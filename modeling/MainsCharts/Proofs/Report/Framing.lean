import MainsCharts.Proofs.Report.Reading
import MainsCharts.Proofs.Text.Pieces

/-!
# What a report says

A report is a stream of bytes, and it counts up to its first blank line (`IsReading`).  It is
not read any further, so it makes no difference whether what follows is text.  A line that is not
valid text in front of the blank one makes the whole report unreadable.

This leaves nothing open, so it is what the reading of a report gives, and nothing else
(`reportLines_eq_iff`).  What stands behind a blank line can be taken off
(`reportLines_append_blank`).
-/

namespace MainsCharts

set_option autoImplicit false

open Text

/-- That a report starts with lines that are not blank. -/
structure StartsWithLines (report : List UInt8) (lines : List (List Char))
    (rest : List (List UInt8)) : Prop where
  pieces : ArePieces (lines.map Utf8.encode ++ rest)
  whole : (lines.map Utf8.encode ++ rest).flatten = report
  content : ∀ line ∈ lines, trim line ≠ []

/-- **What a report says**: the lines before its first blank line, without the white space around
them, or that a line there is not valid text. -/
inductive IsReading (report : List UInt8) : Except Failure (List (List Char)) → Prop where
  | ended {lines : List (List Char)} : StartsWithLines report lines [] →
      IsReading report (.ok (lines.map trim))
  | blank {lines : List (List Char)} {line : List Char} {rest : List (List UInt8)} :
      StartsWithLines report lines (Utf8.encode line :: rest) → trim line = [] →
      IsReading report (.ok (lines.map trim))
  | invalid {lines : List (List Char)} {piece : List UInt8} {rest : List (List UInt8)} :
      StartsWithLines report lines (piece :: rest) → Utf8.decode? piece = none →
      IsReading report (.error (.stream .invalidText))

/-- Pieces start with lines that are not blank, up to one that is no line or a blank one. -/
theorem exists_lines (cut : List (List UInt8)) :
    ∃ (lines : List (List Char)) (rest : List (List UInt8)),
      cut = lines.map Utf8.encode ++ rest ∧ (∀ line ∈ lines, trim line ≠ []) ∧
      ∀ piece ∈ rest.head?, Utf8.decode? piece = none ∨
        ∃ line, piece = Utf8.encode line ∧ trim line = [] := by
  induction cut with
  | nil => exact ⟨[], [], rfl, nofun, nofun⟩
  | cons piece cut ih =>
      cases reads : Utf8.decode? piece with
      | none =>
          refine ⟨[], piece :: cut, rfl, nofun, ?_⟩
          rintro _ ⟨⟩
          exact .inl reads
      | some line =>
          obtain rfl := Utf8.decode?_eq_some_iff.mp reads
          by_cases blank : trim line = []
          · refine ⟨[], Utf8.encode line :: cut, rfl, nofun, ?_⟩
            rintro _ ⟨⟩
            exact .inr ⟨line, rfl, blank⟩
          · obtain ⟨lines, rest, split, content, stops⟩ := ih
            refine ⟨line :: lines, rest, ?_, List.forall_mem_cons.mpr ⟨blank, content⟩, stops⟩
            rw [split, List.map_cons, List.cons_append]

/-- Every report says something. -/
theorem exists_isReading (report : List UInt8) : ∃ outcome, IsReading report outcome := by
  obtain ⟨lines, rest, split, content, stops⟩ := exists_lines (pieces report)
  have starts : StartsWithLines report lines rest := by
    constructor
    case pieces => exact split ▸ arePieces_pieces report
    case whole => rw [← split, flatten_pieces]
    case content => exact content
  cases rest with
  | nil => exact ⟨_, .ended starts⟩
  | cons piece rest =>
      rcases stops piece rfl with invalid | ⟨line, rfl, blank⟩
      · exact ⟨_, .invalid starts invalid⟩
      · exact ⟨_, .blank starts blank⟩

/-- Lines that are not blank are read one by one. -/
theorem linesBeforeBlank_append {lines : List (List Char)}
    (content : ∀ line ∈ lines, trim line ≠ [])
    (rest : List (Option (List Char))) :
    linesBeforeBlank (lines.map (fun line => some (withoutTerminator line)) ++ rest) =
      (linesBeforeBlank rest).map (lines.map trim ++ ·) := by
  induction lines with
  | nil =>
      cases read : linesBeforeBlank rest <;> simp [read, Except.map]
  | cons line lines ih =>
      have solid : ¬ (trim line).isEmpty = true := by
        rw [List.isEmpty_iff]
        exact content line List.mem_cons_self
      rw [List.map_cons, List.cons_append, linesBeforeBlank, trim_withoutTerminator_eq]
      rw [if_neg solid, ih fun other member => content other (List.mem_cons_of_mem line member)]
      cases linesBeforeBlank rest <;> rfl

/-- What is read from a report that starts with lines is theirs and that of the rest. -/
theorem StartsWithLines.reportLines_eq {report : List UInt8} {lines : List (List Char)}
    {rest : List (List UInt8)} (starts : StartsWithLines report lines rest) :
    reportLines report =
      ((linesBeforeBlank (rest.map fun piece => (Utf8.decode? piece).map withoutTerminator)).map
        (lines.map trim ++ ·)).mapError .stream := by
  have split := pieces_flatten starts.pieces
  rw [starts.whole] at split
  rw [reportLines, Text.lines, split, List.map_append, List.map_map, ← linesBeforeBlank_append
    starts.content]
  congr 3
  refine List.map_congr_left ?_
  intro line _
  rw [Function.comp_apply, Utf8.decode?_encode, Option.map_some]

/-- A blank line hides what follows it. -/
theorem linesBeforeBlank_append_blank {line : List Char} (blank : trim line = [])
    (lines rest : List (Option (List Char))) :
    linesBeforeBlank (lines ++ some line :: rest) = linesBeforeBlank lines := by
  induction lines with
  | nil =>
      rw [List.nil_append, linesBeforeBlank, linesBeforeBlank, blank, List.isEmpty_nil, if_pos rfl]
  | cons first lines ih =>
      cases first with
      | none => rfl
      | some first => rw [List.cons_append, linesBeforeBlank, linesBeforeBlank, ih]

/-- **What follows a blank line** makes no difference, be it text or not. -/
theorem reportLines_append_blank {report : List UInt8} {blank : List Char} (ends : EndsLine report)
    (plain : '\n' ∉ blank) (isBlank : trim blank = []) (rest : List UInt8) :
    reportLines (report ++ (Utf8.encode blank ++ 0x0A :: rest)) = reportLines report := by
  have blankLine : Utf8.encode blank ++ 0x0A :: rest = Utf8.encode (blank ++ ['\n']) ++ rest := by
    rw [Utf8.encode_append, List.append_assoc]
    rfl
  have endsToo : EndsLine (Utf8.encode (blank ++ ['\n'])) := by
    rw [EndsLine, Utf8.encode_append, show Utf8.encode ['\n'] = [0x0A] from rfl,
      List.getLast?_concat]
    rintro _ ⟨⟩
    rfl
  have nothing : trim (withoutTerminator (blank ++ ['\n'])) = [] := by
    rw [trim_withoutTerminator, isBlank]
  rw [reportLines, reportLines, blankLine, Text.lines, pieces_append_of_endsLine ends,
    pieces_append_of_endsLine endsToo, pieces_encode, cutLines_append_newline plain,
    List.map_append, List.map_cons, List.cons_append, List.map_cons, Utf8.decode?_encode,
    Option.map_some, linesBeforeBlank_append_blank nothing]
  rfl

/-- **What a report says** is what is read from it. -/
theorem reportLines_eq_iff {report : List UInt8} {outcome : Except Failure (List (List Char))} :
    reportLines report = outcome ↔ IsReading report outcome := by
  have unique {other : Except Failure (List (List Char))} (isReading : IsReading report other) :
      reportLines report = other := by
    cases isReading with
    | ended starts =>
        rw [starts.reportLines_eq]
        simp [linesBeforeBlank, Except.map, Except.mapError]
    | blank starts isBlank =>
        rw [starts.reportLines_eq, List.map_cons, Utf8.decode?_encode, Option.map_some,
          linesBeforeBlank, trim_withoutTerminator_eq, isBlank]
        simp [Except.map, Except.mapError]
    | invalid starts isInvalid =>
        rw [starts.reportLines_eq, List.map_cons, isInvalid]
        rfl
  constructor
  · -- Something can be read from every report, and it can only be what is read.
    rintro rfl
    obtain ⟨other, isReading⟩ := exists_isReading report
    rwa [unique isReading]
  · exact unique

end MainsCharts
