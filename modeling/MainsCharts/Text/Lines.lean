import MainsCharts.Text.Utf8

/-!
# Lines

A byte stream is cut after each line feed, and a last piece without one counts
when it is not empty.  So the pieces concatenate to the stream.  A piece is read
as text on its own: one malformed line does not hide the lines before it.
Where a line is wanted without its terminator, a line feed is dropped together
with a carriage return right before it.
-/

namespace MainsCharts.Text

set_option autoImplicit false

/-- The pieces of a byte stream, each ending with its line feed. -/
def pieces : List UInt8 → List (List UInt8)
  | [] => []
  | byte :: rest =>
      if byte = 0x0A then [byte] :: pieces rest
      else
        match pieces rest with
        | [] => [[byte]]
        | first :: others => (byte :: first) :: others

/-- A line without its terminator.  Only a carriage return before a line feed is
part of the terminator. -/
def withoutTerminator (line : List Char) : List Char :=
  match line.reverse with
  | '\n' :: '\r' :: rest => rest.reverse
  | '\n' :: rest => rest.reverse
  | _ => line

/-- The first line of a text, without its terminator. -/
def firstLine : List Char → List Char
  | [] => []
  | '\n' :: _ => []
  | '\r' :: '\n' :: _ => []
  | character :: rest => character :: firstLine rest

/-- The lines of a byte stream as texts without terminators, `none` for a line
that is not valid UTF-8. -/
def lines (bytes : List UInt8) : List (Option (List Char)) :=
  (pieces bytes).map fun piece => (Utf8.decode? piece).map withoutTerminator

/-- Nothing is lost and nothing added when a stream is cut into pieces. -/
theorem flatten_pieces (bytes : List UInt8) : (pieces bytes).flatten = bytes := by
  induction bytes with
  | nil => rfl
  | cons byte rest ih =>
      simp only [pieces]
      split
      · simp [ih]
      · split
        · rename_i empty
          rw [empty] at ih
          simp_all
        · rename_i first others found
          rw [found] at ih
          simpa using ih

end MainsCharts.Text
