import MainsCharts.Blacklist
import MainsCharts.Text.Ends

/-!
# Filtering a dump

A dump of a database has a row on each line, with the time of the row in a comment
and its values in elements.  Filtering copies a dump line by line and puts a value
that is not a number in place of every value of a row whose time is blacklisted.
Nothing else changes, and a line that is not valid text ends the copy.
-/

namespace MainsCharts.Dump

set_option autoImplicit false

open Numeral Text

/-- The digits of a row time at the beginning of a text: a stroke with spaces around
it, digits, and the end of a comment. -/
def timeHere? (text : List Char) : Option (List Char) := do
  let rest ← after? [' ', '/', ' '] text
  let digits := rest.takeWhile Char.isDigit
  let _ ← after? [' ', '-', '-', '>'] (rest.dropWhile Char.isDigit)
  if digits.isEmpty then none else some digits

/-- The digits of the first row time in a text. -/
def time? : List Char → Option (List Char)
  | [] => none
  | character :: rest => (timeHere? (character :: rest)).or (time? rest)

/-- Whether a line is a row whose time is blacklisted. -/
def isHit (blacklist : Blacklist) (line : List Char) : Bool :=
  match (time? line).bind (digitsUpTo? greatestWord) with
  | some moment => blacklist.contains moment
  | none => false

/-- Whether a character may stand in a value. -/
def isValueChar (character : Char) : Bool :=
  character ≠ '<' && character ≠ '>'

/-- The tag before a value. -/
def openingTag : List Char := ['<', 'v', '>']

/-- The tag after a value. -/
def closingTag : List Char := ['<', '/', 'v', '>']

/-- What follows a value, with its tags, at the beginning of a text. -/
def afterValue? (text : List Char) : Option (List Char) := do
  let rest ← after? openingTag text
  if (rest.takeWhile isValueChar).isEmpty then none
  else after? closingTag (rest.dropWhile isValueChar)

/-- The value that is not a number, with its tags. -/
def blankValue : List Char :=
  openingTag ++ [' ', 'N', 'a', 'N', ' '] ++ closingTag

/-- What follows a value is shorter than the text that the value stands in. -/
theorem length_of_afterValue? {text rest : List Char} (found : afterValue? text = some rest) :
    rest.length < text.length := by
  simp only [afterValue?, Option.bind_eq_bind, Option.bind_eq_some_iff] at found
  obtain ⟨inner, opened, found⟩ := found
  split at found
  · exact absurd found (by simp)
  have closed := found
  have first := congrArg List.length (after?_eq_some_iff.1 opened)
  have second := congrArg List.length (after?_eq_some_iff.1 closed)
  have dropped : (inner.dropWhile isValueChar).length ≤ inner.length :=
    (List.dropWhile_suffix isValueChar).length_le
  simp only [openingTag, closingTag, List.length_append, List.length_cons, List.length_nil]
    at first second
  omega

/-- A text with every value in it blanked, from left to right. -/
def blankValues (text : List Char) : List Char :=
  match text with
  | [] => []
  | character :: others =>
      match _found : afterValue? (character :: others) with
      | some rest => blankValue ++ blankValues rest
      | none => character :: blankValues others
termination_by text.length
decreasing_by
  · exact length_of_afterValue? _found
  · simp

/-- A dump that was filtered: what was written, and the number of rows that were
blanked unless a line could not be read. -/
structure Filtered where
  written : List UInt8
  outcome : Except StreamFault Nat

/-- Filters the pieces of a dump. -/
def filterPieces (blacklist : Blacklist) : List (List UInt8) → Filtered
  | [] => ⟨[], .ok 0⟩
  | piece :: rest =>
      match Utf8.decode? piece with
      | none => ⟨[], .error .invalidText⟩
      | some line =>
          let others := filterPieces blacklist rest
          if isHit blacklist line then
            ⟨Utf8.encode (blankValues line) ++ others.written, others.outcome.map (· + 1)⟩
          else ⟨piece ++ others.written, others.outcome⟩

/-- Filters a dump. -/
def filter (blacklist : Blacklist) (dump : List UInt8) : Filtered :=
  filterPieces blacklist (pieces dump)

end MainsCharts.Dump
