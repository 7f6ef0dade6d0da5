import MainsCharts.Text.Printable

/-!
# Texts inside other texts

A text that becomes a part of another is written so that it can be told from what is
around it.  There are three ways.

A message that repeats what it was given puts it in double quotes.  The quote, the
backslash, the tabulation, the line feed, the carriage return and the null character
have two-character forms; any other character that does not stand for itself is
written as its code point in hexadecimal.  An apostrophe needs no escape.

The arguments that describe a drawing are fields separated by colons.  A colon inside
a field is written with a backslash before it; nothing else is escaped.

A word in single quotes is taken by a shell as it stands.  A single quote inside it
cannot be quoted that way: there the quotes are closed, the quote is written with a
backslash before it, and the quotes are opened again.
-/

namespace MainsCharts.Text

set_option autoImplicit false

/-! ## Double quotes -/

/-- A code point written as an escape: `u`, then its hexadecimal digits in braces. -/
def codePointEscape (character : Char) : List Char :=
  ['\\', 'u', '\x7b'] ++ Nat.toDigits 16 character.toNat ++ ['\x7d']

/-- A character as it appears in a quoted text. -/
def quotedChar (character : Char) : List Char :=
  match character with
  | '\x00' => ['\\', '0']
  | '\t' => ['\\', 't']
  | '\r' => ['\\', 'r']
  | '\n' => ['\\', 'n']
  | '\\' => ['\\', '\\']
  | '"' => ['\\', '"']
  | _ => if isPrintable character then [character] else codePointEscape character

/-- A text in double quotes. -/
def quoted (text : String) : String :=
  String.ofList ('"' :: text.toList.flatMap quotedChar ++ ['"'])

/-! ## Colon-separated fields -/

/-- A field's text with a backslash before each colon. -/
def escapeColons : List Char → List Char
  | [] => []
  | ':' :: rest => '\\' :: ':' :: escapeColons rest
  | character :: rest => character :: escapeColons rest

/-- A field as it is written. -/
def field (text : String) : String :=
  String.ofList (escapeColons text.toList)

/-! ## Words for a shell -/

/-- The single quote. -/
def apostrophe : Char := '\x27'

/-- A character inside single quotes. -/
def shellChar (character : Char) : List Char :=
  if character = apostrophe then [apostrophe, '\\', apostrophe, apostrophe] else [character]

/-- A word in single quotes, character by character. -/
def shellWord (word : List Char) : List Char :=
  apostrophe :: word.flatMap shellChar ++ [apostrophe]

/-- A word in single quotes. -/
def shellQuoted (word : String) : String :=
  String.ofList (shellWord word.toList)

/-- Words in single quotes with spaces between them. -/
def shellLine (words : List String) : String :=
  " ".intercalate (words.map shellQuoted)

end MainsCharts.Text
