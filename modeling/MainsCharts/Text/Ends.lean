/-!
# The ends of a text

Many lines are recognised by what they start with.  Taking an opening off a text
gives the rest of it, and nothing when the text starts in another way.

Reports, blacklists and trend arguments are read with the white space around
them removed.  White space is the Unicode property White_Space: the control
characters from tabulation to carriage return, the next line character, the
space, the no-break spaces, the typographic spaces and the line and paragraph
separators.  The zero width space and the byte order mark do not have it.
-/

namespace MainsCharts.Text

set_option autoImplicit false

/-! ## Openings -/

/-- What follows an opening in a text that starts with it. -/
def after? : List Char → List Char → Option (List Char)
  | [], text => some text
  | _, [] => none
  | expected :: opening, character :: text =>
      if expected = character then after? opening text else none

/-- An opening and what follows it make up the text. -/
theorem after?_eq_some_iff {opening text rest : List Char} :
    after? opening text = some rest ↔ text = opening ++ rest := by
  induction opening generalizing text with
  | nil => simp [after?, eq_comm]
  | cons expected opening ih =>
      cases text with
      | nil => simp [after?]
      | cons character text =>
          by_cases same : expected = character
          · subst same
            simp [after?, ih]
          · constructor
            · intro found
              simp [after?, same] at found
            · intro split
              exact absurd (List.cons.inj split).1.symm same

/-! ## White space -/

/-- Whether a character has the Unicode property White_Space. -/
def isBlank (character : Char) : Bool :=
  let code := character.toNat
  (0x09 ≤ code && code ≤ 0x0D) || code == 0x20 || code == 0x85 || code == 0xA0 ||
    code == 0x1680 || (0x2000 ≤ code && code ≤ 0x200A) || code == 0x2028 || code == 0x2029 ||
    code == 0x202F || code == 0x205F || code == 0x3000

/-- A text without the blank characters it starts with. -/
def trimStart (text : List Char) : List Char :=
  text.dropWhile isBlank

/-- A text without the blank characters it ends with. -/
def trimEnd (text : List Char) : List Char :=
  (text.reverse.dropWhile isBlank).reverse

/-- A text without the blank characters around it. -/
def trim (text : List Char) : List Char :=
  trimEnd (trimStart text)

end MainsCharts.Text
