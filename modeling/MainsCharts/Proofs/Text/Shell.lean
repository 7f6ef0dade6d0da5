import MainsCharts.Text.Quoting

/-!
# Reading a line as a shell does

A shell cuts a line into words.  Between apostrophes it takes every character as it
stands; outside of them a backslash takes the next character as it stands, blanks
separate words and the end of the line ends the last one.  Any other character outside
of apostrophes is one that the shell may give a meaning of its own, such as a variable, a
pattern or an operator, so the reader here keeps the two apart (`ShellSymbol`).

A quoted word reads back as itself, in literal characters only, whatever stands behind it
(`readShell_shellWord_append`); so does a whole line (`readShell_shellLine`).
-/

namespace MainsCharts.Text

set_option autoImplicit false

/-- A character of a word, as a shell sees it. -/
inductive ShellSymbol where
  /-- A character that stands for itself. -/
  | literal (character : Char)
  /-- A character that may be expanded or taken as an operator. -/
  | bare (character : Char)
  deriving DecidableEq

/-- Where a shell is within a line. -/
inductive ShellPlace where
  /-- Before a word. -/
  | between
  /-- In a word, outside of apostrophes. -/
  | inside
  /-- In a word, between apostrophes. -/
  | quoted
  /-- In a word, behind a backslash. -/
  | escaped
  deriving DecidableEq

/-- The words of a line, and the text behind the line. -/
structure ShellReading where
  words : List (List ShellSymbol)
  rest : List Char
  deriving DecidableEq

namespace ShellReading

/-- A reading with a character before its first word. -/
def prepend (symbol : ShellSymbol) (reading : ShellReading) : ShellReading :=
  match reading.words with
  | [] => { reading with words := [[symbol]] }
  | first :: others => { reading with words := (symbol :: first) :: others }

/-- A reading with the end of a word before it, if there is one at that place. -/
def close (place : ShellPlace) (reading : ShellReading) : ShellReading :=
  match place with
  | .between => reading
  | .inside | .quoted | .escaped => { reading with words := [] :: reading.words }

end ShellReading

open ShellReading

/-- Reads a line from some place in it.  There is no reading when apostrophes are left
open, or when nothing stands behind a backslash. -/
def readShell : ShellPlace → List Char → Option ShellReading
  | .quoted, [] | .escaped, [] => none
  | .quoted, character :: rest =>
      if character = apostrophe then readShell .inside rest
      else (readShell .quoted rest).map (prepend (.literal character))
  | .escaped, character :: rest => (readShell .inside rest).map (prepend (.literal character))
  | .between, [] => some (close .between ⟨[], []⟩)
  | .inside, [] => some (close .inside ⟨[], []⟩)
  | place, character :: rest =>
      if character = '\n' then some (close place ⟨[], rest⟩)
      else if character = ' ' ∨ character = '\t' then (readShell .between rest).map (close place)
      else if character = apostrophe then readShell .quoted rest
      else if character = '\\' then readShell .escaped rest
      else (readShell .inside rest).map (prepend (.bare character))

/-- A word of characters that stand for themselves. -/
def literalWord (word : String) : List ShellSymbol :=
  word.toList.map .literal

/-! ## Quoted words -/

variable (word : List Char) (rest : List Char)

/-- The apostrophes that close a word. -/
theorem readShell_quoted_apostrophe :
    readShell .quoted (apostrophe :: rest) = readShell .inside rest := by
  rw [readShell, if_pos rfl]

/-- A character between apostrophes.  An apostrophe is written outside of them, behind a
backslash, so the reader leaves them and enters them again. -/
theorem readShell_shellChar_append (character : Char) :
    readShell .quoted (shellChar character ++ rest) =
      (readShell .quoted rest).map (prepend (.literal character)) := by
  unfold shellChar
  split
  · rename_i same
    subst same
    have reopened : readShell .inside (apostrophe :: rest) = readShell .quoted rest := by
      simp [readShell, apostrophe]
    have escape : readShell .inside ('\\' :: apostrophe :: apostrophe :: rest) =
        (readShell .inside (apostrophe :: rest)).map (prepend (.literal apostrophe)) := by
      simp [readShell, apostrophe]
    rw [List.cons_append, readShell_quoted_apostrophe, List.cons_append, List.cons_append,
      List.cons_append, List.nil_append, escape, reopened]
  · rename_i plain
    rw [List.singleton_append, readShell, if_neg plain]

/-- The rest of a word between apostrophes, and the apostrophe behind it. -/
theorem readShell_quoted_append :
    readShell .quoted (word.flatMap shellChar ++ apostrophe :: rest) =
      (readShell .inside rest).map fun reading =>
        (word.map ShellSymbol.literal).foldr prepend reading := by
  induction word with
  | nil =>
      rw [List.flatMap_nil, List.nil_append, readShell_quoted_apostrophe]
      exact Option.map_id'.symm
  | cons character word ih =>
      rw [List.flatMap_cons, List.append_assoc, readShell_shellChar_append, ih, Option.map_map]
      rfl

/-- A whole word, from one apostrophe to the other. -/
theorem readShell_shellWord_append :
    readShell .between (shellWord word ++ rest) =
      (readShell .inside rest).map fun reading =>
        (word.map ShellSymbol.literal).foldr prepend reading := by
  have opened (text : List Char) :
      readShell .between (apostrophe :: text) = readShell .quoted text := by
    simp [readShell, apostrophe]
  rw [shellWord, List.append_assoc, List.cons_append, opened, List.singleton_append,
    readShell_quoted_append]

/-! ## Lines -/

/-- The characters of a word before the end of that word. -/
theorem foldr_prepend_close (symbols : List ShellSymbol) (words : List (List ShellSymbol)) :
    symbols.foldr prepend (close .inside ⟨words, rest⟩) = ⟨symbols :: words, rest⟩ := by
  induction symbols with
  | nil => rfl
  | cons symbol symbols ih => rw [List.foldr_cons, ih, prepend]

/-- Quoted words with spaces between them, in front of the end of a line. -/
theorem readShell_intercalate {ending : List Char}
    (ends : readShell .inside ending = some (close .inside ⟨[], rest⟩)) :
    ∀ first (others : List (List Char)),
      readShell .between ([' '].intercalate ((first :: others).map shellWord) ++ ending) =
        some ⟨(first :: others).map (List.map ShellSymbol.literal), rest⟩
  | first, [] => by
      rw [List.map_singleton, List.intercalate_singleton, readShell_shellWord_append, ends,
        Option.map_some, foldr_prepend_close, List.map_singleton]
  | first, second :: others => by
      have spaced (text : List Char) : readShell .inside (' ' :: text) =
          (readShell .between text).map (close .inside) := by
        simp [readShell]
      rw [List.map_cons, List.map_cons, List.intercalate_cons_cons, ← List.map_cons,
        List.append_assoc, List.append_assoc, readShell_shellWord_append, List.singleton_append,
        spaced, readShell_intercalate ends second others, Option.map_some, Option.map_some,
        foldr_prepend_close, ← List.map_cons]

/-- **A line of quoted words reads back** as those words, each character of them standing
for itself. -/
theorem readShell_shellLine (first : String) (others : List String) {ending : List Char}
    (ends : readShell .inside ending = some (close .inside ⟨[], rest⟩)) :
    readShell .between ((shellLine (first :: others)).toList ++ ending) =
      some ⟨(first :: others).map literalWord, rest⟩ := by
  have written : (shellLine (first :: others)).toList =
      [' '].intercalate ((first.toList :: others.map String.toList).map shellWord) := by
    rw [shellLine, String.toList_intercalate]
    simp [shellQuoted, Function.comp_def]
  rw [written, readShell_intercalate rest ends]
  simp [literalWord]

/-- Outside of apostrophes a dollar sign is not taken as it stands. -/
example : readShell .between "'$a b' $a".toList =
    some ⟨[literalWord "$a b", [.bare '$', .bare 'a']], []⟩ := by
  decide

end MainsCharts.Text
