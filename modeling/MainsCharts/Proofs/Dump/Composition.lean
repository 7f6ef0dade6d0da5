import MainsCharts.Proofs.Dump.Blanking
import MainsCharts.Proofs.Text.Pieces

/-!
# Filtering more than once

A dump that is valid text is filtered line by line, and the lines stay what they were but
for the values in them: none is added, lost or joined with another (`filter_encode`,
`cutLines_filterText`).  Since a line that was blanked keeps its row time, whether it is
hit by a second blacklist does not depend on the first (`isHit_filterLine`).

So filtering with one blacklist after another is filtering with the ranges of both
(`filter_composes`).
-/

namespace MainsCharts

set_option autoImplicit false

open Numeral Text

namespace Blacklist

theorem contains_append (first second : Blacklist) (moment : Nat) :
    contains (first ++ second) moment = (contains first moment || contains second moment) :=
  List.any_append

/-- What a blacklist contains is a matter of the ranges in it, not of their order or number. -/
theorem contains_congr {first second : Blacklist} (same : ∀ range, range ∈ first ↔ range ∈ second)
    (moment : Nat) : contains first moment = contains second moment := by
  rw [Bool.eq_iff_iff, contains, contains, List.any_eq_true, List.any_eq_true]
  constructor
  · rintro ⟨range, member, inside⟩
    exact ⟨range, (same range).mp member, inside⟩
  · rintro ⟨range, member, inside⟩
    exact ⟨range, (same range).mpr member, inside⟩

end Blacklist

namespace Dump

/-! ## Lines -/

theorem isHit_append (first second : Blacklist) (line : List Char) :
    isHit (first ++ second) line = (isHit first line || isHit second line) := by
  unfold isHit
  cases (time? line).bind (digitsUpTo? greatestWord) with
  | none => rfl
  | some moment => exact Blacklist.contains_append first second moment

theorem isHit_congr {first second : Blacklist} (same : ∀ range, range ∈ first ↔ range ∈ second)
    (line : List Char) : isHit first line = isHit second line := by
  unfold isHit
  cases (time? line).bind (digitsUpTo? greatestWord) with
  | none => rfl
  | some moment => exact Blacklist.contains_congr same moment

/-- A line as it is written. -/
def filterLine (blacklist : Blacklist) (line : List Char) : List Char :=
  if isHit blacklist line then blankValues line else line

/-- Filtering a line does not change which blacklists hit it. -/
theorem isHit_filterLine (first second : Blacklist) (line : List Char) :
    isHit second (filterLine first line) = isHit second line := by
  unfold filterLine
  split
  · rw [isHit, isHit, (alike_blankValues line).time?_eq]
  · rfl

theorem filterLine_filterLine (first second : Blacklist) (line : List Char) :
    filterLine second (filterLine first line) = filterLine (first ++ second) line := by
  rw [filterLine, isHit_filterLine, filterLine, filterLine, isHit_append]
  cases isHit first line <;> cases isHit second line <;>
    simp [blankValues_blankValues]

/-- A filtered line has its line feed where it was. -/
theorem exists_filterLine_append (blacklist : Blacklist) {body ending : List Char}
    (plain : '\n' ∉ body) (ends : ending = [] ∨ ending = ['\n']) :
    ∃ changed, filterLine blacklist (body ++ ending) = changed ++ ending ∧ '\n' ∉ changed ∧
      (body ≠ [] → changed ≠ []) := by
  unfold filterLine
  split
  · refine ⟨blankValues body, ?_, newline_not_mem_blankValues plain, blankValues_ne_nil⟩
    rcases ends with rfl | rfl
    · rw [List.append_nil, List.append_nil]
    · exact blankValues_append_singleton (by decide) body
  · exact ⟨body, rfl, plain, id⟩

/-! ## Texts -/

/-- A text as it is written, line by line. -/
def filterText (blacklist : Blacklist) (text : List Char) : List Char :=
  ((cutLines text).map (filterLine blacklist)).flatten

/-- The lines of a filtered text are the filtered lines of the text. -/
theorem cutLines_filterText (blacklist : Blacklist) (text : List Char) :
    cutLines (filterText blacklist text) = (cutLines text).map (filterLine blacklist) :=
  cutLines_flatten ((isCut_cutLines text).map fun _ _ plain ends =>
    exists_filterLine_append blacklist plain ends)

theorem filterText_filterText (first second : Blacklist) (text : List Char) :
    filterText second (filterText first text) = filterText (first ++ second) text := by
  rw [filterText, cutLines_filterText, List.map_map, filterText]
  congr 1
  refine List.map_congr_left ?_
  intro line _
  exact filterLine_filterLine first second line

theorem filterText_congr {first second : Blacklist}
    (same : ∀ range, range ∈ first ↔ range ∈ second) (text : List Char) :
    filterText first text = filterText second text := by
  rw [filterText, filterText]
  congr 1
  refine List.map_congr_left ?_
  intro line _
  rw [filterLine, filterLine, isHit_congr same]

/-- The number of rows of a text that are hit. -/
def rowsHit (blacklist : Blacklist) (text : List Char) : Nat :=
  (cutLines text).countP (isHit blacklist)

theorem rowsHit_filterText (first second : Blacklist) (text : List Char) :
    rowsHit second (filterText first text) = rowsHit second text := by
  rw [rowsHit, cutLines_filterText, List.countP_map, rowsHit]
  refine List.countP_congr ?_
  intro line _
  rw [Function.comp_apply, isHit_filterLine]

theorem rowsHit_congr {first second : Blacklist}
    (same : ∀ range, range ∈ first ↔ range ∈ second) (text : List Char) :
    rowsHit first text = rowsHit second text := by
  refine List.countP_congr ?_
  intro line _
  rw [isHit_congr same]

/-! ## Dumps -/

/-- Pieces are filtered line by line, up to the first that is not valid text. -/
theorem filterPieces_of_legible {cut unread : List (List UInt8)} {lines : List (List Char)}
    (blacklist : Blacklist) (legible : AreLegible cut lines unread) :
    filterPieces blacklist cut =
      ⟨Utf8.encode (lines.map (filterLine blacklist)).flatten,
        if unread = [] then .ok (lines.countP (isHit blacklist)) else .error .invalidText⟩ := by
  obtain ⟨rfl, stops⟩ := legible
  induction lines with
  | nil =>
      cases unread with
      | nil => rfl
      | cons piece unread =>
          rw [List.map_nil, List.nil_append, filterPieces, stops piece rfl]
          rfl
  | cons line lines ih =>
      rw [List.map_cons, List.cons_append, filterPieces, Utf8.decode?_encode]
      simp only [ih, List.map_cons, List.flatten_cons, Utf8.encode_append, List.countP_cons,
        filterLine]
      split <;> split <;> rfl

/-- **A dump that is valid text** is filtered to the filtered text. -/
theorem filter_encode (blacklist : Blacklist) (text : List Char) :
    filter blacklist (Utf8.encode text) =
      ⟨Utf8.encode (filterText blacklist text), .ok (rowsHit blacklist text)⟩ := by
  have legible : AreLegible (pieces (Utf8.encode text)) (cutLines text) [] :=
    ⟨by rw [pieces_encode, List.append_nil], nofun⟩
  rw [filter, filterPieces_of_legible blacklist legible]
  rfl

/-- Nothing is left of a dump only if there was nothing in it. -/
theorem written_ne_nil {blacklist : Blacklist} {dump : List UInt8} {rows : Nat}
    (done : (filter blacklist dump).outcome = .ok rows) (nonempty : dump ≠ []) :
    (filter blacklist dump).written ≠ [] := by
  obtain ⟨first, others, cut, firstNonempty⟩ := exists_pieces_eq_cons nonempty
  rw [filter, cut, filterPieces] at done ⊢
  cases reads : Utf8.decode? first with
  | none => rw [reads] at done; exact nomatch done
  | some line =>
      have same := Utf8.decode?_eq_some_iff.mp reads
      have lineNonempty : line ≠ [] := by
        rintro rfl
        exact firstNonempty same
      dsimp only
      split
      · exact List.append_ne_nil_of_left_ne_nil
          (Utf8.encode_ne_nil (blankValues_ne_nil lineNonempty)) _
      · exact List.append_ne_nil_of_left_ne_nil firstNonempty _

/-- **Filtering composes like a union of ranges.** -/
theorem filter_composes {dump : List UInt8} (valid : (Utf8.decode? dump).isSome)
    (first second : Blacklist) :
    (filter second (filter first dump).written).written = (filter (first ++ second) dump).written ∧
    (filter first (filter second dump).written).written = (filter (first ++ second) dump).written ∧
    (∃ rows further, (filter first dump).outcome = .ok rows ∧
      (filter second (filter first dump).written).outcome = .ok further) ∧
    filter first (filter first dump).written = filter first dump ∧
    ∀ other : Blacklist, (∀ range, range ∈ other ↔ range ∈ first) →
      filter other dump = filter first dump := by
  obtain ⟨text, reads⟩ := Option.isSome_iff_exists.mp valid
  rw [Utf8.decode?_eq_some_iff.mp reads]
  have swapped : ∀ range, range ∈ second ++ first ↔ range ∈ first ++ second := by
    simp [or_comm]
  have doubled : ∀ range, range ∈ first ++ first ↔ range ∈ first := by
    simp
  simp only [filter_encode, filterText_filterText, rowsHit_filterText, filterText_congr swapped,
    filterText_congr doubled]
  refine ⟨trivial, trivial, ⟨_, _, rfl, rfl⟩, trivial, ?_⟩
  intro other same
  rw [filterText_congr same, rowsHit_congr same]

/-- Two rows, the second of which has a value within a value and no line feed. -/
def twoRows : List Char :=
  ("<!-- x / 100 --> <row><v>5.0e+01</v></row>\n" ++
    "<!-- x / 200 --> <row><v><v>4.9e+01</v></row>").toList

theorem filter_composes_twoRows :
    (Utf8.decode? (Utf8.encode twoRows)).isSome ∧
    rowsHit [⟨150, 250⟩] twoRows = 1 ∧
    (filter [⟨150, 250⟩] (filter [⟨100, 100⟩] (Utf8.encode twoRows)).written).written =
      (filter [⟨100, 100⟩, ⟨150, 250⟩] (Utf8.encode twoRows)).written := by
  have valid : (Utf8.decode? (Utf8.encode twoRows)).isSome := by rw [Utf8.decode?_encode]; rfl
  exact ⟨valid, by decide, (filter_composes valid [⟨100, 100⟩] [⟨150, 250⟩]).1⟩

end Dump

end MainsCharts
