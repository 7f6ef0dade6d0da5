/-!
# Texts for a terminal

A text for a terminal holds escape sequences beside the characters that it shows;
they set parts of it off from the rest.  Where there is no terminal the sequences
are taken out, and with them the control characters other than white space.

The text is read by a machine that stands between sequences or inside one.  A
sequence starts with the escape character, and the character after it tells what
kind of sequence it is and so what ends it.  A new escape character ends every
sequence.  A sequence without an end takes the rest of the text with it.

White space is shown also within the sequences that hold no free text.  Whether it
ends such a sequence depends on how the text is put out: as a text it does, on a
stream it only suspends the sequence.
-/

namespace MainsCharts.Text.Terminal

set_option autoImplicit false

/-- The character that starts a sequence. -/
def escapeCharacter : Char := '\x1b'

/-- A part of a text that is set off from the rest. -/
def highlighted (text : String) : String :=
  "\x1b[1m" ++ text ++ "\x1b[0m"

/-! ## Sequences -/

/-- How far the header of a device string has come. -/
inductive HeaderPart where
  | start
  | parameters
  | intermediates
  deriving DecidableEq

/-- What kind of sequence a text is in. -/
inductive Mode where
  /-- Between sequences. -/
  | ground
  /-- After the escape character. -/
  | escape
  /-- In a short sequence, before its last character. -/
  | short
  /-- In a control sequence, before its last character. -/
  | control
  /-- In a command to the system, which a bell ends. -/
  | command
  /-- In the header of a string for a device, before the passage in it. -/
  | header (part : HeaderPart)
  /-- In a passage, which the terminator ends. -/
  | passage
  deriving DecidableEq

/-- The byte that ends a passage. -/
def terminator : UInt8 := 0x9C

/-- Whether a character is one of the ASCII white space characters, the space
excepted. -/
def breaksWords (character : Char) : Bool :=
  character == '\t' || character == '\n' || character == '\x0c' || character == '\r'

/-- Whether a character is a control character of ASCII. -/
def isControl (character : Char) : Bool :=
  character.toNat < 0x20 || character == '\x7f'

/-- Whether a character is in ASCII. -/
def isAscii (character : Char) : Bool :=
  character.toNat < 0x80

namespace Mode

/-- Whether a character is shown. -/
def shows (mode : Mode) (character : Char) : Bool :=
  match mode with
  | ground => !isControl character || breaksWords character
  | escape | short | control => breaksWords character
  | command | header _ | passage => false

/-- The kind of sequence that a character after the escape character starts. -/
def ofIntroducer (character : Char) : Mode :=
  if isControl character then escape
  else if character.toNat < 0x30 then short
  else if character = '[' then control
  else if character = ']' then command
  else if character = 'P' then header .start
  else if character = 'X' ∨ character = '^' ∨ character = '_' then passage
  else ground

/-- Where a header stands after one of its characters.  Parameters come before
intermediate characters; in a header of any other form all is passed over. -/
def ofHeader (part : HeaderPart) (character : Char) : Mode :=
  if isControl character then header part
  else if character.toNat < 0x30 then header .intermediates
  else if 0x40 ≤ character.toNat then passage
  else
    match part with
    | .start => header .parameters
    | .parameters => if character.toNat < 0x3C then header .parameters else passage
    | .intermediates => passage

/-- The mode after a character outside ASCII that is not shown.  The terminator ends a
passage wherever it stands, so also as one of the bytes of a character. -/
def afterForeign (mode : Mode) (character : Char) : Mode :=
  if mode = passage ∧ terminator ∈ String.utf8EncodeChar character then ground else mode

/-- The mode after an ASCII character that is not shown. -/
def afterAscii (mode : Mode) (character : Char) : Mode :=
  if character = escapeCharacter then escape
  else if character = '\x18' ∨ character = '\x1a' then ground
  else
    match mode with
    | ground => ground
    | escape => ofIntroducer character
    | short => if isControl character ∨ character.toNat < 0x30 then short else ground
    | control => if isControl character ∨ character.toNat < 0x40 then control else ground
    | command => if character = '\x07' then ground else command
    | header part => ofHeader part character
    | passage => passage

/-- The mode after a character that is not shown. -/
def after (mode : Mode) (character : Char) : Mode :=
  if isAscii character then mode.afterAscii character else mode.afterForeign character

end Mode

/-! ## What is shown -/

/-- What white space that is shown within a sequence does to it. -/
inductive Interruption where
  /-- It ends the sequence. -/
  | ends
  /-- It suspends the sequence: the text is shown up to the next control character,
  and the sequence goes on with that.  A character outside ASCII ends it before. -/
  | suspends
  deriving DecidableEq

/-- Where the reading of a text stands. -/
structure Reading where
  mode : Mode
  suspended : Bool

namespace Reading

/-- Between sequences. -/
def start : Reading := ⟨.ground, false⟩

/-- Whether a character is shown. -/
def shows (reading : Reading) (character : Char) : Bool :=
  if reading.suspended then Mode.ground.shows character else reading.mode.shows character

/-- Where the reading stands after a character. -/
def next (reading : Reading) (interruption : Interruption) (character : Char) : Reading :=
  if reading.shows character then
    if interruption = .suspends ∧ isAscii character then { reading with suspended := true }
    else start
  else ⟨reading.mode.after character, false⟩

end Reading

/-- What is shown of a text that is read further. -/
def shownFrom (interruption : Interruption) : Reading → List Char → List Char
  | _, [] => []
  | reading, character :: rest =>
      let further := shownFrom interruption (reading.next interruption character) rest
      if reading.shows character then character :: further else further

/-- What is shown of a text. -/
def shown (interruption : Interruption) (text : List Char) : List Char :=
  shownFrom interruption .start text

end MainsCharts.Text.Terminal
