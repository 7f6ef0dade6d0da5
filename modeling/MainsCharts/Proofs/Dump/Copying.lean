import Mathlib.Data.List.Forall2
import MainsCharts.Proofs.Dump.Composition
import MainsCharts.Proofs.Numeral.Digits
import MainsCharts.Proofs.Text.Pieces
import MainsCharts.Proofs.Text.Search

/-!
# What a filter writes

A filtered dump is described without the searches that make it.  A row is hit when the first row
time in it fits and lies in a range (`Hit`).  A line is blanked when its values are replaced one
after the other, each the first that stands behind the one before it (`Blanked`).  A copy has one
line for each line of the dump, blanked where the line is hit and the same otherwise, up to the
first line that is not valid text (`IsCopy`).

All these descriptions leave nothing open, so what a filter writes is the copy, and the only one
(`filter_eq_iff_isCopy`).
-/

namespace MainsCharts.Dump

set_option autoImplicit false

open Numeral Text

variable {blacklist : Blacklist} {line text written : List Char}

/-! ## Rows that are hit -/

/-- That a text starts with a row time. -/
def StartsWithTime (text : List Char) : Prop :=
  ∃ digits rest, IsTime digits ∧ text = timed digits ++ rest

theorem isSome_timeHere?_iff : (timeHere? text).isSome ↔ StartsWithTime text := by
  simp only [Option.isSome_iff_exists, timeHere?_eq_some_iff, StartsWithTime]
  constructor
  · rintro ⟨digits, isTime, rest, split⟩
    exact ⟨digits, rest, isTime, split⟩
  · rintro ⟨digits, rest, isTime, split⟩
    exact ⟨digits, isTime, rest, split⟩

/-- That the first row time of a line has the given digits. -/
def HasTime (line digits : List Char) : Prop :=
  ∃ before after, line = before ++ (timed digits ++ after) ∧ IsTime digits ∧
    IsFirst StartsWithTime before (timed digits ++ after)

/-- **The row time of a line** is the first one in it. -/
theorem time?_eq_some_iff {digits : List Char} :
    time? line = some digits ↔ HasTime line digits := by
  rw [search_eq_some_iff timeHere? time? (fun _ => isSome_timeHere?_iff) rfl rfl time?_cons,
    HasTime]
  constructor
  · rintro ⟨before, after, split, here, isFirst⟩
    obtain ⟨isTime, rest, rfl⟩ := timeHere?_eq_some_iff.mp here
    exact ⟨before, rest, split, isTime, isFirst⟩
  · rintro ⟨before, rest, split, isTime, isFirst⟩
    exact ⟨before, _, split, timeHere?_eq_some_iff.mpr ⟨isTime, rest, rfl⟩, isFirst⟩

/-- That the first row time of a line has at most sixty-four bits and lies in a range. -/
def Hit (blacklist : Blacklist) (line : List Char) : Prop :=
  ∃ digits, HasTime line digits ∧ digitsValue digits ≤ greatestWord ∧
    ∃ range ∈ blacklist, range.first ≤ digitsValue digits ∧ digitsValue digits ≤ range.last

theorem isHit_iff_exists : isHit blacklist line = true ↔
    ∃ moment, (time? line).bind (digitsUpTo? greatestWord) = some moment ∧
      blacklist.contains moment = true := by
  rw [isHit]
  cases (time? line).bind (digitsUpTo? greatestWord) <;> simp

/-- **The rows that are hit.** -/
theorem isHit_iff : isHit blacklist line = true ↔ Hit blacklist line := by
  simp only [isHit_iff_exists, Option.bind_eq_some_iff, time?_eq_some_iff, digitsUpTo?_eq_some_iff,
    Blacklist.contains_eq_true_iff, Hit]
  constructor
  · rintro ⟨_, ⟨digits, hasTime, -, rfl, fits⟩, inside⟩
    exact ⟨digits, hasTime, fits, inside⟩
  · rintro ⟨digits, hasTime, fits, inside⟩
    have isTime : IsTime digits := by
      obtain ⟨_, _, _, isTime, _⟩ := hasTime
      exact isTime
    exact ⟨_, ⟨digits, hasTime, isTime, rfl, fits⟩, inside⟩

instance (blacklist : Blacklist) : DecidablePred (Hit blacklist) :=
  fun _ => decidable_of_iff _ isHit_iff

/-! ## Lines that are blanked -/

/-- That a text starts with a value between its tags. -/
def StartsWithValue (text : List Char) : Prop :=
  ∃ inner rest, IsValue inner ∧ text = tagged inner rest

theorem startsWithValue_iff : StartsWithValue text ↔ afterValue? text ≠ none := by
  simp only [Option.ne_none_iff_exists', afterValue?_eq_some_iff, StartsWithValue]
  constructor
  · rintro ⟨inner, rest, isValue, split⟩
    exact ⟨rest, inner, isValue, split⟩
  · rintro ⟨rest, inner, isValue, split⟩
    exact ⟨inner, rest, isValue, split⟩

/-- That a text is another one with its values blanked from left to right. -/
inductive Blanked : List Char → List Char → Prop where
  | plain {text : List Char} :
      (∀ before after, text = before ++ after → ¬ StartsWithValue after) → Blanked text text
  | value {before inner rest blanked : List Char} :
      IsValue inner → IsFirst StartsWithValue before (tagged inner rest) → Blanked rest blanked →
      Blanked (before ++ tagged inner rest) (before ++ tagged [' ', 'N', 'a', 'N', ' '] blanked)

theorem Blanked.cons {character : Char} {others blanked : List Char}
    (missing : ¬ StartsWithValue (character :: others)) (isBlanked : Blanked others blanked) :
    Blanked (character :: others) (character :: blanked) := by
  cases isBlanked with
  | plain nowhere =>
      refine .plain ?_
      intro before after split
      cases before with
      | nil =>
          obtain rfl : character :: others = after := split
          exact missing
      | cons first before => exact nowhere before after (List.cons.inj split).2
  | value isValue isFirst isBlanked => exact .value isValue (isFirst.cons missing) isBlanked

theorem blanked_blankValues (text : List Char) : Blanked text (blankValues text) := by
  induction text using blanking_induction with
  | nil =>
      rw [blankValues_nil]
      refine .plain ?_
      intro before after split
      rw [(List.append_eq_nil_iff.mp split.symm).2, startsWithValue_iff]
      exact fun found => found rfl
  | value inner rest isValue ih =>
      rw [blankValues_of_some (afterValue?_tagged isValue rest)]
      have isFirst : IsFirst StartsWithValue [] (tagged inner rest) :=
        .nil ⟨inner, rest, isValue, rfl⟩
      exact .value isValue isFirst ih
  | character first others missing ih =>
      rw [blankValues_of_none missing]
      exact .cons (fun starts => startsWithValue_iff.mp starts missing) ih

/-- What stands before the first value is left as it is. -/
theorem blankValues_append {before after : List Char}
    (isFirst : IsFirst StartsWithValue before after) :
    blankValues (before ++ after) = before ++ blankValues after := by
  induction before with
  | nil => rfl
  | cons character before ih =>
      obtain ⟨missing, others⟩ := isFirst.of_cons
      rw [startsWithValue_iff, not_not] at missing
      rw [List.cons_append] at missing ⊢
      rw [blankValues_of_none missing, ih others, List.cons_append]

theorem blankValues_eq_self (nowhere : ∀ before after, text = before ++ after →
    ¬ StartsWithValue after) : blankValues text = text := by
  induction text with
  | nil => exact blankValues_nil
  | cons character others ih =>
      have missing := nowhere [] _ rfl
      rw [startsWithValue_iff, not_not] at missing
      rw [blankValues_of_none missing, ih]
      intro before after split
      exact nowhere (character :: before) after (by rw [split, List.cons_append])

/-- **Blanking puts the value that is not a number** in place of each value, and leaves everything
else. -/
theorem blanked_iff : Blanked text written ↔ written = blankValues text := by
  constructor
  · intro isBlanked
    induction isBlanked with
    | plain nowhere => exact (blankValues_eq_self nowhere).symm
    | value isValue isFirst _ ih =>
        rw [blankValues_append isFirst, blankValues_of_some (afterValue?_tagged isValue _), ih]
  · rintro rfl
    exact blanked_blankValues text

/-! ## Copies -/

/-- What a line is copied to. -/
inductive Copied (blacklist : Blacklist) (line : List Char) : List Char → Prop where
  | hit {blanked : List Char} : Hit blacklist line → Blanked line blanked →
      Copied blacklist line blanked
  | kept : ¬ Hit blacklist line → Copied blacklist line line

theorem copied_iff : Copied blacklist line written ↔ written = filterLine blacklist line := by
  unfold filterLine
  split
  · rename_i hit
    rw [isHit_iff] at hit
    constructor
    · rintro (⟨-, isBlanked⟩ | missed)
      · exact blanked_iff.mp isBlanked
      · exact absurd hit missed
    · intro same
      exact .hit hit (blanked_iff.mpr same)
  · rename_i missed
    rw [isHit_iff] at missed
    constructor
    · rintro (⟨hit, -⟩ | -)
      · exact absurd hit missed
      · rfl
    · rintro rfl
      exact .kept missed

/-- Lines are copied one by one. -/
theorem forall₂_copied_iff {lines changed : List (List Char)} :
    List.Forall₂ (Copied blacklist) lines changed ↔ changed = lines.map (filterLine blacklist) := by
  induction lines generalizing changed with
  | nil => simp
  | cons line lines ih => simp [List.forall₂_cons_left_iff, copied_iff, ih]

/-- That a dump was copied line by line: the lines that are valid text up to the first that is not,
each as it should be, and the number of those that were hit if there is no other. -/
structure IsCopyOf (blacklist : Blacklist) (dump : List UInt8) (lines changed : List (List Char))
    (unread : List (List UInt8)) (copy : Filtered) : Prop where
  pieces : ArePieces (lines.map Utf8.encode ++ unread)
  whole : (lines.map Utf8.encode ++ unread).flatten = dump
  stops : ∀ piece ∈ unread.head?, Utf8.decode? piece = none
  copied : List.Forall₂ (Copied blacklist) lines changed
  written : copy.written = (changed.map Utf8.encode).flatten
  sameLines : ArePieces (changed.map Utf8.encode)
  outcome : copy.outcome =
    if (Utf8.decode? dump).isSome then .ok (lines.countP (Hit blacklist ·)) else .error .invalidText

/-- That a dump was copied as it should be. -/
def IsCopy (blacklist : Blacklist) (dump : List UInt8) (copy : Filtered) : Prop :=
  ∃ lines changed unread, IsCopyOf blacklist dump lines changed unread copy

theorem filter_of_legible {dump : List UInt8} {lines : List (List Char)}
    {unread : List (List UInt8)} (legible : AreLegible (pieces dump) lines unread) :
    filter blacklist dump =
      ⟨((lines.map (filterLine blacklist)).map Utf8.encode).flatten,
        if (Utf8.decode? dump).isSome then .ok (lines.countP (Hit blacklist ·))
        else .error .invalidText⟩ := by
  have hits : lines.countP (isHit blacklist) = lines.countP (Hit blacklist ·) :=
    List.countP_congr fun line _ => by rw [isHit_iff, decide_eq_true_iff]
  rw [filter, filterPieces_of_legible blacklist legible, encode_flatten, hits]
  simp only [isSome_decode?_iff legible]

/-- **A filter writes the copy of a dump**, and this describes all that it does. -/
theorem filter_eq_iff_isCopy {dump : List UInt8} {copy : Filtered} :
    filter blacklist dump = copy ↔ IsCopy blacklist dump copy := by
  constructor
  · rintro rfl
    obtain ⟨lines, unread, legible⟩ := exists_legible (pieces dump)
    have arePieces := arePieces_pieces dump
    rw [legible.split] at arePieces
    have isCut : IsCut (lines.map (filterLine blacklist)) :=
      (arePieces_map_encode_iff.mp arePieces.of_append).map fun _ _ plain ends =>
        exists_filterLine_append blacklist plain ends
    refine ⟨lines, lines.map (filterLine blacklist), unread, ?_⟩
    constructor
    case pieces => exact arePieces
    case whole => rw [← legible.split, flatten_pieces]
    case stops => exact legible.stops
    case copied => exact forall₂_copied_iff.mpr rfl
    case written => rw [filter_of_legible legible]
    case sameLines => exact arePieces_map_encode_iff.mpr isCut
    case outcome => rw [filter_of_legible legible]
  · rintro ⟨lines, changed, unread, isCopy⟩
    obtain rfl := isCopy.whole
    obtain rfl := forall₂_copied_iff.mp isCopy.copied
    have legible : AreLegible (pieces (lines.map Utf8.encode ++ unread).flatten) lines unread :=
      ⟨pieces_flatten isCopy.pieces, isCopy.stops⟩
    rw [filter_of_legible legible, ← isCopy.written, ← isCopy.outcome]

end MainsCharts.Dump
