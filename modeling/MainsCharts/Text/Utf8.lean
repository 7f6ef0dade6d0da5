/-!
# UTF-8

A byte sequence is read by a machine that stands between characters or inside
one.  Inside a character it knows how many bytes are still owed, in which range
the next one must lie, and the value of the bytes so far.  A byte outside that
range ends the character as malformed and is read again as the first byte of the
next one, so a malformed part is always as long as it can be before it is ruled
out.

Reading yields one item per character or malformed part.  The strict reading
accepts a sequence without malformed parts, the lenient one puts the replacement
character in place of each.
-/

namespace MainsCharts.Text.Utf8

set_option autoImplicit false

/-- Where the machine stands.  `owed` is zero between characters. -/
structure State where
  owed : Nat
  least : Nat
  greatest : Nat
  value : Nat
  deriving DecidableEq

/-- Between characters. -/
def State.start : State := ⟨0, 0x80, 0xBF, 0⟩

/-- Inside a character after a byte in range: any continuation byte may follow. -/
def State.after (owed value : Nat) : State := ⟨owed, 0x80, 0xBF, value⟩

/-- The first byte of a character: the finished items and the state after it.
Only the ranges differ from one kind of first byte to the next; they rule out
overlong forms, surrogates and values above the last code point. -/
def begin (byte : Nat) : List (Option Char) × State :=
  if byte ≤ 0x7F then ([some (Char.ofNat byte)], .start)
  else if 0xC2 ≤ byte ∧ byte ≤ 0xDF then ([], .after 1 (byte - 0xC0))
  else if byte = 0xE0 then ([], ⟨2, 0xA0, 0xBF, 0⟩)
  else if byte = 0xED then ([], ⟨2, 0x80, 0x9F, 0xD⟩)
  else if 0xE1 ≤ byte ∧ byte ≤ 0xEF then ([], .after 2 (byte - 0xE0))
  else if byte = 0xF0 then ([], ⟨3, 0x90, 0xBF, 0⟩)
  else if 0xF1 ≤ byte ∧ byte ≤ 0xF3 then ([], .after 3 (byte - 0xF0))
  else if byte = 0xF4 then ([], ⟨3, 0x80, 0x8F, 4⟩)
  else ([none], .start)

/-- One byte: the items it finishes and the state after it. -/
def step (state : State) (byte : Nat) : List (Option Char) × State :=
  if state.owed = 0 then begin byte
  else if state.least ≤ byte ∧ byte ≤ state.greatest then
    let value := state.value * 64 + (byte - 0x80)
    if state.owed = 1 then ([some (Char.ofNat value)], .start)
    else ([], .after (state.owed - 1) value)
  else
    let (items, next) := begin byte
    (none :: items, next)

/-- The items of a byte sequence read from a state.  A character that is still
owed bytes at the end is malformed. -/
def run : State → List UInt8 → List (Option Char)
  | state, [] => if state.owed = 0 then [] else [none]
  | state, byte :: rest =>
      let (items, next) := step state byte.toNat
      items ++ run next rest

/-- The characters and malformed parts of a byte sequence. -/
def items (bytes : List UInt8) : List (Option Char) :=
  run .start bytes

/-- The text of a byte sequence, if no part of it is malformed. -/
def decode? (bytes : List UInt8) : Option (List Char) :=
  (items bytes).mapM id

/-- The text of a byte sequence, with U+FFFD in place of each malformed part. -/
def decodeLossy (bytes : List UInt8) : List Char :=
  (items bytes).map (·.getD (Char.ofNat 0xFFFD))

/-- The bytes of a text. -/
def encode (text : List Char) : List UInt8 :=
  text.flatMap String.utf8EncodeChar

end MainsCharts.Text.Utf8
