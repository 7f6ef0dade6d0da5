import MainsCharts.Event
import MainsCharts.Numeral.Integer
import MainsCharts.Text.Ends
import MainsCharts.Text.Lines

/-!
# Blacklists

A blacklist is a list of ranges of time, both ends included.  It is read from a
text with one range on a line; a number sign starts a comment, and lines without
content are passed over.  On a line the first two runs of digits with a colon
between them are the range.  A line without such a pair, or with one whose
numbers are too large, is skipped with a warning.
-/

namespace MainsCharts

set_option autoImplicit false

open Numeral Text

/-- A range of seconds since the epoch, both ends included. -/
structure TimeRange where
  first : Nat
  last : Nat
  deriving DecidableEq

/-- Whether a range has a moment in it. -/
def TimeRange.contains (range : TimeRange) (moment : Nat) : Bool :=
  range.first ≤ moment && moment ≤ range.last

/-- Ranges of time whose samples are thrown away. -/
abbrev Blacklist := List TimeRange

/-- Whether some range of a blacklist has a moment in it. -/
def Blacklist.contains (blacklist : Blacklist) (moment : Nat) : Bool :=
  List.any blacklist fun range => range.contains moment

theorem Blacklist.contains_eq_true_iff {blacklist : Blacklist} {moment : Nat} :
    blacklist.contains moment = true ↔
      ∃ range ∈ blacklist, range.first ≤ moment ∧ moment ≤ range.last := by
  simp [Blacklist.contains, TimeRange.contains]

/-- A blacklist that was read from a text, as far as the text could be read. -/
structure BlacklistReading where
  outcome : Except StreamFault Blacklist
  warnings : List Event

namespace Blacklist

/-- Two runs of digits with a colon between them, at the beginning of a text. -/
def pairHere? (text : List Char) : Option (List Char × List Char) :=
  let first := text.takeWhile Char.isDigit
  match text.dropWhile Char.isDigit with
  | ':' :: rest =>
      let second := rest.takeWhile Char.isDigit
      if first.isEmpty || second.isEmpty then none else some (first, second)
  | _ => none

/-- The first two runs of digits with a colon between them. -/
def pair? : List Char → Option (List Char × List Char)
  | [] => none
  | character :: rest => (pairHere? (character :: rest)).or (pair? rest)

/-- The range on a line. -/
def range? (line : List Char) : Option TimeRange := do
  let (first, last) ← pair? line
  return ⟨← digitsUpTo? greatestWord first, ← digitsUpTo? greatestWord last⟩

/-- A line without its comment. -/
def withoutComment (line : List Char) : List Char :=
  line.takeWhile (· ≠ '#')

/-- What a line of a blacklist holds. -/
inductive Entry where
  | nothing
  | range (range : TimeRange)
  | malformed
  deriving DecidableEq

/-- Reads a line of a blacklist. -/
def entry (line : List Char) : Entry :=
  let content := withoutComment line
  if (trim content).isEmpty then .nothing
  else
    match range? content with
    | some range => .range range
    | none => .malformed

/-- Reads lines, the first of which has the given number. -/
def readLines (number : Nat) : List (Option (List Char)) → BlacklistReading
  | [] => ⟨.ok [], []⟩
  | none :: _ => ⟨.error .invalidText, []⟩
  | some line :: rest =>
      let others := readLines (number + 1) rest
      match entry line with
      | .nothing => others
      | .range range => { others with outcome := others.outcome.map (range :: ·) }
      | .malformed =>
          { others with
            warnings := .blacklistLineSkipped number (String.ofList line) :: others.warnings }

/-- Reads a blacklist. -/
def read (text : List UInt8) : BlacklistReading :=
  readLines 1 (lines text)

end Blacklist

end MainsCharts
