import MainsCharts.Color
import MainsCharts.Proofs.Text.Casing
import MainsCharts.Proofs.Text.Utf8

/-!
# Reading colors

A color is read from a number sign and six or eight hexadecimal digits (`IsWritten`).  What
differs between the texts of one color is the case of the letters and whether the opacity of an
opaque color is written, so a text in upper case without such an opacity is its normal form
(`normal`).  A text is read as a color exactly when its normal form is what the color is written as
(`read_eq_ok_iff`), and everything else follows: what is written is read back, and two texts stand
for one color exactly when they have the same normal form.

The reader looks at characters.  It could as well count bytes, and take each channel from a part of
the text between two byte positions (`readBytes`).  Such a part does not exist where a position lies
inside a character, but that is ruled out before any part is taken: bytes that are all hexadecimal
digits are characters of their own (`readBytes_eq`).
-/

namespace MainsCharts.Color

set_option autoImplicit false

open Text

variable {text digits : List Char} {channels : List UInt8} {color : Color}

/-! ## Texts for colors -/

/-- The hexadecimal digits, with letters in either case. -/
def hexAlphabet : List Char :=
  ['0', '1', '2', '3', '4', '5', '6', '7', '8', '9',
    'a', 'b', 'c', 'd', 'e', 'f', 'A', 'B', 'C', 'D', 'E', 'F']

/-- **The texts for a color**: a number sign, and six or eight hexadecimal digits behind it. -/
def IsWritten (text : List Char) : Prop :=
  ∃ digits, text = '#' :: digits ∧ (digits.length = 6 ∨ digits.length = 8) ∧
    ∀ digit ∈ digits, digit ∈ hexAlphabet

/-- A text in upper case, without the opacity of an opaque color. -/
def normal (text : List Char) : List Char :=
  let capital := text.map Char.toUpper
  if capital.length = 9 ∧ capital.drop 7 = ['F', 'F'] then capital.take 7 else capital

/-! ## Digits -/

/-- A digit has the value that its upper case is written for. -/
theorem exists_hexValue? {digit : Char} (member : digit ∈ hexAlphabet) :
    ∃ value, hexValue? digit = some value ∧ value < 16 ∧ hexDigit value = digit.toUpper := by
  have valued : (hexAlphabet.all fun digit => (hexValue? digit).any fun value =>
      value < 16 && hexDigit value == digit.toUpper) = true := rfl
  obtain ⟨value, isValue, shaped⟩ :=
    (Option.any_eq_true _ _).mp (List.all_eq_true.mp valued digit member)
  rw [Bool.and_eq_true, decide_eq_true_iff, beq_iff_eq] at shaped
  exact ⟨value, isValue, shaped⟩

theorem mem_hexAlphabet_of_hexValue? {digit : Char} {value : Nat}
    (isValue : hexValue? digit = some value) : digit ∈ hexAlphabet := by
  have small : digit.toNat < 128 := by
    unfold hexValue? at isValue
    split at isValue
    · rename_i isDigit
      exact Nat.lt_of_le_of_lt (Char.isDigit_iff_toNat.mp isDigit).2 (by decide)
    split at isValue
    · rename_i isSmall
      have most : digit.toNat ≤ 'f'.toNat := isSmall.2
      exact Nat.lt_of_le_of_lt most (by decide)
    split at isValue
    · rename_i isCapital
      have most : digit.toNat ≤ 'F'.toNat := isCapital.2
      exact Nat.lt_of_le_of_lt most (by decide)
    · exact nomatch isValue
  have valued : hexValue? digit ≠ none := by
    rw [isValue]
    exact Option.some_ne_none value
  revert valued
  exact forall_ascii digit small (by decide)

theorem lt_of_hexValue? {digit : Char} {value : Nat} (isValue : hexValue? digit = some value) :
    value < 16 := by
  obtain ⟨other, isOther, small, -⟩ := exists_hexValue? (mem_hexAlphabet_of_hexValue? isValue)
  rwa [← Option.some.inj (isOther.symm.trans isValue)]

/-- A digit is read as a value exactly when its upper case is written for it. -/
theorem hexValue?_eq_some_iff {digit : Char} {value : Nat} (small : value < 16) :
    hexValue? digit = some value ↔ digit.toUpper = hexDigit value := by
  constructor
  · intro isValue
    obtain ⟨other, isOther, -, same⟩ := exists_hexValue? (mem_hexAlphabet_of_hexValue? isValue)
    obtain rfl := Option.some.inj (isOther.symm.trans isValue)
    exact same.symm
  · intro same
    have written : ∀ value < 16, hexValue? (hexDigit value) = some value ∧
        hexValue? (hexDigit value).toLower = some value := by
      decide
    obtain ⟨asCapital, asSmall⟩ := written value small
    have digits := eq_toUpper_or digit
    rw [same] at digits
    rcases digits with rfl | rfl
    · exact asCapital
    · exact asSmall

/-! ## Channels -/

theorem channelDigits_ofNat {high low : Nat} (highSmall : high < 16) (lowSmall : low < 16) :
    channelDigits (UInt8.ofNat (high * 16 + low)) = [hexDigit high, hexDigit low] := by
  have value : (UInt8.ofNat (high * 16 + low)).toNat = high * 16 + low :=
    UInt8.toNat_ofNat_of_lt' (by rw [UInt8.size]; omega)
  have quotient : (high * 16 + low) / 16 = high := by omega
  have remainder : (high * 16 + low) % 16 = low := by omega
  rw [channelDigits, value, quotient, remainder]

/-- **Channels are read** from what they are written as, in either case. -/
theorem channels?_eq_some_iff :
    channels? digits = some channels ↔
      digits.map Char.toUpper = channels.flatMap channelDigits := by
  induction digits using channels?.induct generalizing channels with
  | case1 =>
      cases channels with
      | nil => exact iff_of_true rfl rfl
      | cons channel channels => exact iff_of_false nofun nofun
  | case2 digit =>
      cases channels with
      | nil => exact iff_of_false nofun nofun
      | cons channel channels => simp [channels?, channelDigits]
  | case3 high low rest ih =>
      rw [channels?]
      constructor
      · intro reads
        obtain ⟨upper, isUpper, reads⟩ := Option.bind_eq_some_iff.mp reads
        obtain ⟨lower, isLower, reads⟩ := Option.bind_eq_some_iff.mp reads
        obtain ⟨others, areOthers, reads⟩ := Option.bind_eq_some_iff.mp reads
        obtain rfl := Option.some.inj reads
        have upperSmall := lt_of_hexValue? isUpper
        have lowerSmall := lt_of_hexValue? isLower
        rw [List.flatMap_cons, channelDigits_ofNat upperSmall lowerSmall, List.map_cons,
          List.map_cons, (hexValue?_eq_some_iff upperSmall).mp isUpper,
          (hexValue?_eq_some_iff lowerSmall).mp isLower, ih.mp areOthers]
        rfl
      · intro written
        cases channels with
        | nil => exact nomatch written
        | cons channel channels =>
            have bound := channel.toNat_lt
            have upperSmall : channel.toNat / 16 < 16 := by omega
            have lowerSmall : channel.toNat % 16 < 16 := by omega
            have whole : channel.toNat / 16 * 16 + channel.toNat % 16 = channel.toNat := by omega
            rw [List.flatMap_cons, channelDigits] at written
            obtain ⟨isUpper, written⟩ := List.cons.inj written
            obtain ⟨isLower, others⟩ := List.cons.inj written
            rw [(hexValue?_eq_some_iff upperSmall).mpr isUpper,
              (hexValue?_eq_some_iff lowerSmall).mpr isLower, ih.mpr others]
            simp only [Option.bind_eq_bind, Option.bind_some, Option.pure_def, whole,
              UInt8.ofNat_toNat]

/-- Pairs of digits have channels. -/
theorem exists_channels? (even : digits.length % 2 = 0)
    (hexadecimal : ∀ digit ∈ digits, digit ∈ hexAlphabet) :
    ∃ channels, channels? digits = some channels ∧ digits.length = 2 * channels.length := by
  induction digits using channels?.induct with
  | case1 => exact ⟨[], rfl, rfl⟩
  | case2 digit => exact nomatch even
  | case3 high low rest ih =>
      obtain ⟨isHigh, isLow, others⟩ :
          high ∈ hexAlphabet ∧ low ∈ hexAlphabet ∧ ∀ digit ∈ rest, digit ∈ hexAlphabet := by
        simpa only [List.forall_mem_cons] using hexadecimal
      obtain ⟨upper, isUpper, -⟩ := exists_hexValue? isHigh
      obtain ⟨lower, isLower, -⟩ := exists_hexValue? isLow
      rw [List.length_cons, List.length_cons] at even
      obtain ⟨channels, areChannels, length⟩ := ih (by omega) others
      refine ⟨UInt8.ofNat (upper * 16 + lower) :: channels, ?_, ?_⟩
      · rw [channels?, isUpper, isLower, areChannels]
        rfl
      · rw [List.length_cons, List.length_cons, List.length_cons, length]
        omega

/-- Only hexadecimal digits have channels. -/
theorem mem_hexAlphabet_of_channels? (areChannels : channels? digits = some channels) :
    (∀ digit ∈ digits, digit ∈ hexAlphabet) ∧ digits.length = 2 * channels.length := by
  have written := channels?_eq_some_iff.mp areChannels
  constructor
  · intro digit member
    have capital : digit.toUpper ∈ channels.flatMap channelDigits :=
      written ▸ List.mem_map_of_mem member
    obtain ⟨channel, -, isDigit⟩ := List.mem_flatMap.mp capital
    have bound := channel.toNat_lt
    simp only [channelDigits, List.mem_cons, List.not_mem_nil, or_false] at isDigit
    rcases isDigit with high | low
    · exact mem_hexAlphabet_of_hexValue? ((hexValue?_eq_some_iff (by omega)).mpr high)
    · exact mem_hexAlphabet_of_hexValue? ((hexValue?_eq_some_iff (by omega)).mpr low)
  · have lengths := congrArg List.length written
    have double : ∀ channel ∈ channels, (channelDigits channel).length = 2 := fun _ _ => rfl
    rwa [List.length_map, List.length_flatMap, List.map_congr_left double, List.map_const',
      List.sum_replicate_nat, Nat.mul_comm] at lengths

/-! ## Colors -/

theorem digits_of_full (isOpaque : color.alpha = 0xFF) :
    color.digits = '#' :: [color.red, color.green, color.blue].flatMap channelDigits := by
  rw [Color.digits, if_pos isOpaque]
  simp

theorem digits_of_translucent (notOpaque : color.alpha ≠ 0xFF) :
    color.digits =
      '#' :: [color.red, color.green, color.blue, color.alpha].flatMap channelDigits := by
  rw [Color.digits, if_neg notOpaque]
  simp

/-- A color with digits for three channels is opaque, and with digits for four it need not be. -/
theorem ofDigits?_cons_eq_some_iff :
    ofDigits? ('#' :: digits) = some color ↔
      color.alpha = 0xFF ∧ channels? digits = some [color.red, color.green, color.blue] ∨
        channels? digits = some [color.red, color.green, color.blue, color.alpha] := by
  simp only [ofDigits?]
  split
  · rename_i red green blue isThree
    rw [isThree, opaqueOf]
    obtain ⟨r, g, b, a⟩ := color
    simp only [Option.some.injEq, Color.mk.injEq, List.cons.injEq]
    constructor
    · rintro ⟨rfl, rfl, rfl, rfl⟩
      exact .inl ⟨rfl, rfl, rfl, rfl, trivial⟩
    · rintro (⟨rfl, rfl, rfl, rfl, -⟩ | ⟨-, -, -, four⟩)
      · exact ⟨rfl, rfl, rfl, rfl⟩
      · exact nomatch four
  · rename_i red green blue alpha isFour
    rw [isFour]
    obtain ⟨r, g, b, a⟩ := color
    simp only [Option.some.injEq, Color.mk.injEq, List.cons.injEq]
    constructor
    · rintro ⟨rfl, rfl, rfl, rfl⟩
      exact .inr ⟨rfl, rfl, rfl, rfl, trivial⟩
    · rintro (⟨-, -, -, -, three⟩ | ⟨rfl, rfl, rfl, rfl, -⟩)
      · exact nomatch three
      · exact ⟨rfl, rfl, rfl, rfl⟩
  · rename_i notThree notFour
    refine iff_of_false nofun ?_
    rintro (⟨-, three⟩ | four)
    · exact notThree _ _ _ three
    · exact notFour _ _ _ _ four

theorem exists_of_ofDigits? (reads : ofDigits? text = some color) :
    ∃ digits, text = '#' :: digits := by
  unfold ofDigits? at reads
  split at reads
  · exact ⟨_, rfl⟩
  · exact nomatch reads

/-- A text is read as a color when its upper case is what the color is written as, with or without
the opacity of an opaque color. -/
theorem ofDigits?_eq_some_iff :
    ofDigits? text = some color ↔
      text.map Char.toUpper = color.digits ∨
        color.alpha = 0xFF ∧ text.map Char.toUpper = color.digits ++ ['F', 'F'] := by
  have sign {first : Char} (same : first.toUpper = '#') : first = '#' := by
    have signs := eq_toUpper_or first
    rw [same] at signs
    exact signs.elim id id
  have opened {rest : List Char} {digits : List Char}
      (same : text.map Char.toUpper = '#' :: rest ++ digits) :
      ∃ digits, text = '#' :: digits := by
    obtain ⟨first, others, rfl, isSign, -⟩ := List.map_eq_cons_iff.mp same
    exact ⟨others, by rw [sign isSign]⟩
  by_cases signed : ∃ digits, text = '#' :: digits
  · obtain ⟨digits, rfl⟩ := signed
    rw [ofDigits?_cons_eq_some_iff, channels?_eq_some_iff, channels?_eq_some_iff, List.map_cons,
      show '#'.toUpper = '#' from rfl]
    by_cases isOpaque : color.alpha = 0xFF
    · have last : channelDigits color.alpha = ['F', 'F'] := by
        rw [isOpaque]
        decide
      rw [digits_of_full isOpaque, List.cons_append, List.cons_inj_right, List.cons_inj_right]
      have full : [color.red, color.green, color.blue, color.alpha].flatMap channelDigits =
          [color.red, color.green, color.blue].flatMap channelDigits ++ ['F', 'F'] := by
        rw [← last]
        simp
      rw [full]
      simp only [isOpaque, true_and]
    · rw [digits_of_translucent isOpaque, List.cons_inj_right]
      simp [isOpaque]
  · refine iff_of_false (fun reads => signed (exists_of_ofDigits? reads)) ?_
    rintro (plain | ⟨-, full⟩)
    · exact signed (opened (by rw [List.append_nil]; exact plain))
    · exact signed (opened full)

/-! ## Normal forms -/

theorem channelDigits_eq_full_iff {channel : UInt8} :
    channelDigits channel = ['F', 'F'] ↔ channel = 0xFF := by
  constructor
  · intro full
    have reads : channels? ['F', 'F'] = some [channel] := by
      rw [channels?_eq_some_iff, List.flatMap_singleton, full]
      rfl
    exact (List.cons.inj (Option.some.inj reads)).1.symm
  · rintro rfl
    decide

/-- **The normal form of a text** is what a color is written as when the upper case of the text is
that, with or without the opacity of an opaque color. -/
theorem normal_eq_digits_iff :
    normal text = color.digits ↔
      text.map Char.toUpper = color.digits ∨
        color.alpha = 0xFF ∧ text.map Char.toUpper = color.digits ++ ['F', 'F'] := by
  rw [normal]
  generalize text.map Char.toUpper = capital
  by_cases isOpaque : color.alpha = 0xFF
  · have seven : color.digits.length = 7 := by
      rw [digits_of_full isOpaque]
      rfl
    split
    · rename_i full
      constructor
      · intro taken
        exact .inr ⟨isOpaque, by rw [← taken, ← full.2, List.take_append_drop]⟩
      · rintro (rfl | ⟨-, rfl⟩)
        · exact absurd (full.1.symm.trans seven) (by decide)
        · exact List.take_left' seven
    · rename_i notFull
      refine ⟨.inl, ?_⟩
      rintro (plain | ⟨-, rfl⟩)
      · exact plain
      · refine absurd ⟨?_, List.drop_left' seven⟩ notFull
        rw [List.length_append, seven]
        rfl
  · have nine : color.digits.length = 9 := by
      rw [digits_of_translucent isOpaque]
      rfl
    have last : color.digits.drop 7 = channelDigits color.alpha := by
      rw [digits_of_translucent isOpaque]
      rfl
    split
    · rename_i full
      refine iff_of_false ?_ ?_
      · intro taken
        have lengths := congrArg List.length taken
        rw [List.length_take, full.1, nine] at lengths
        exact absurd lengths (by decide)
      · rintro (rfl | ⟨contrary, -⟩)
        · exact isOpaque (channelDigits_eq_full_iff.mp (last.symm.trans full.2))
        · exact isOpaque contrary
    · simp [isOpaque]

theorem read_eq_ok_iff_ofDigits? {text : String} :
    read text = .ok color ↔ ofDigits? text.toList = some color := by
  rw [read]
  split
  · rename_i other isOther
    rw [isOther, Except.ok.injEq, Option.some.injEq]
  · rename_i unread
    rw [unread]
    exact iff_of_false nofun nofun

/-- **A text is read as a color** exactly when its normal form is what the color is written as. -/
theorem read_eq_ok_iff {text : String} :
    read text = .ok color ↔ color.text.toList = normal text.toList := by
  rw [read_eq_ok_iff_ofDigits?, ofDigits?_eq_some_iff, ← normal_eq_digits_iff, Color.text,
    String.toList_ofList, eq_comm]

theorem map_toUpper_digits (color : Color) : color.digits.map Char.toUpper = color.digits := by
  have capital : ∀ value < 16, (hexDigit value).toUpper = hexDigit value := by decide
  have sign : '#'.toUpper = '#' := rfl
  have channel (channel : UInt8) :
      (channelDigits channel).map Char.toUpper = channelDigits channel := by
    have bounded := channel.toNat_lt
    rw [channelDigits, List.map_cons, List.map_cons, List.map_nil, capital _ (by omega),
      capital _ (Nat.mod_lt _ (by decide))]
  by_cases isOpaque : color.alpha = 0xFF
  · simp only [digits_of_full isOpaque, List.map_cons, List.map_flatMap, channel, sign]
  · simp only [digits_of_translucent isOpaque, List.map_cons, List.map_flatMap, channel, sign]

/-- **What a color is written as is read as the color.** -/
theorem read_text (color : Color) : read color.text = .ok color := by
  rw [read_eq_ok_iff_ofDigits?, ofDigits?_eq_some_iff, Color.text, String.toList_ofList]
  exact .inl (map_toUpper_digits color)

/-- **What is read as a color** is what is written for one. -/
theorem exists_ofDigits?_iff : (∃ color, ofDigits? text = some color) ↔ IsWritten text := by
  constructor
  · rintro ⟨color, reads⟩
    obtain ⟨digits, rfl⟩ := exists_of_ofDigits? reads
    refine ⟨digits, rfl, ?_⟩
    rcases ofDigits?_cons_eq_some_iff.mp reads with ⟨-, three⟩ | four
    · obtain ⟨hexadecimal, length⟩ := mem_hexAlphabet_of_channels? three
      exact ⟨.inl length, hexadecimal⟩
    · obtain ⟨hexadecimal, length⟩ := mem_hexAlphabet_of_channels? four
      exact ⟨.inr length, hexadecimal⟩
  · rintro ⟨digits, rfl, lengths, hexadecimal⟩
    obtain ⟨channels, areChannels, length⟩ := exists_channels? (by omega) hexadecimal
    simp only [ofDigits?_cons_eq_some_iff, areChannels]
    match channels, (by omega : channels.length = 3 ∨ channels.length = 4) with
    | [red, green, blue], _ => exact ⟨opaqueOf red green blue, .inl ⟨rfl, rfl⟩⟩
    | [red, green, blue, alpha], _ => exact ⟨⟨red, green, blue, alpha⟩, .inr rfl⟩

theorem exists_read_iff {text : String} :
    (∃ color, read text = .ok color) ↔ IsWritten text.toList := by
  simp only [read_eq_ok_iff_ofDigits?, exists_ofDigits?_iff]

/-- A text that is written for no color is refused as such. -/
theorem read_eq_error_iff {text : String} :
    read text = .error (.color text) ↔ ¬ IsWritten text.toList := by
  rw [← exists_ofDigits?_iff, read]
  split
  · rename_i color isColor
    exact iff_of_false nofun (fun missing => missing ⟨color, isColor⟩)
  · rename_i unread
    exact iff_of_true rfl fun ⟨color, isColor⟩ => nomatch unread.symm.trans isColor

/-! ## Bytes -/

/-- What follows a number of bytes of a text, unless a character reaches across that position. -/
def dropBytes? : List Char → Nat → Option (List Char)
  | text, 0 => some text
  | [], _ + 1 => none
  | character :: rest, count + 1 =>
      if character.utf8Size ≤ count + 1 then dropBytes? rest (count + 1 - character.utf8Size)
      else none

/-- A number of bytes at the start of a text, unless a character reaches across their end. -/
def takeBytes? : List Char → Nat → Option (List Char)
  | _, 0 => some []
  | [], _ + 1 => none
  | character :: rest, count + 1 =>
      if character.utf8Size ≤ count + 1 then
        (takeBytes? rest (count + 1 - character.utf8Size)).map (character :: ·)
      else none

/-- The part of a text between two byte positions, if there is one. -/
def slice? (text : List Char) (start stop : Nat) : Option (List Char) :=
  (dropBytes? text start).bind fun rest => takeBytes? rest (stop - start)

/-- Characters that are no digits may have as many bytes as the digits of a color, but no parts. -/
example : (Utf8.encode "€€".toList).length = 6 ∧ slice? "€€".toList 0 2 = none := by decide

/-- Whether a byte is the code of a hexadecimal digit. -/
def isHexByte (byte : UInt8) : Bool :=
  (0x30 ≤ byte.toNat && byte.toNat ≤ 0x39) || (0x41 ≤ byte.toNat && byte.toNat ≤ 0x46) ||
    (0x61 ≤ byte.toNat && byte.toNat ≤ 0x66)

/-- The number that hexadecimal digits stand for, given their values. -/
def hexNumber (values : List Nat) : Nat :=
  values.foldl (fun number value => number * 16 + value) 0

/-- A byte read from hexadecimal digits, with or without a plus sign in front. -/
def byteOfDigits? (text : List Char) : Option UInt8 :=
  let digits := match text with
    | '+' :: rest => rest
    | _ => text
  if digits.isEmpty then none
  else (digits.mapM hexValue?).bind fun values =>
    if hexNumber values < 256 then some (UInt8.ofNat (hexNumber values)) else none

/-- The channel that is written from a byte position on.  The outer answer is missing when there is
no such part of the text. -/
def channelAt? (digits : List Char) (position : Nat) : Option (Option UInt8) :=
  (slice? digits position (position + 2)).map byteOfDigits?

/-- Whether a text has six or eight bytes, all of them hexadecimal digits. -/
def hasHexBytes (digits : List Char) : Bool :=
  ((Utf8.encode digits).length == 6 || (Utf8.encode digits).length == 8) &&
    (Utf8.encode digits).all isHexByte

/-- A color read from parts of a text, the opacity first. -/
def readParts (digits : List Char) : Option (Option Color) := do
  let alpha ← if (Utf8.encode digits).length = 8 then channelAt? digits 6 else some (some 0xFF)
  let red ← channelAt? digits 0
  let green ← channelAt? digits 2
  let blue ← channelAt? digits 4
  return do return ⟨← red, ← green, ← blue, ← alpha⟩

/-- A color read by the positions of bytes.  There is no answer when a part of the text is taken
that does not exist. -/
def readBytes (text : String) : Option (Except Misuse Color) :=
  match text.toList with
  | '#' :: digits =>
      if hasHexBytes digits then
        (readParts digits).map fun color? => color?.elim (.error (.color text)) .ok
      else some (.error (.color text))
  | _ => some (.error (.color text))

/-- **The bytes of a character are all hexadecimal digits** only when it is one. -/
theorem all_isHexByte_iff {character : Char} :
    (String.utf8EncodeChar character).all isHexByte = true ↔ character ∈ hexAlphabet := by
  constructor
  · intro hexadecimal
    have foreign {code : Nat} (above : 128 ≤ code) (below : code < 256) :
        isHexByte (UInt8.ofNat code) = false := by
      have value : (UInt8.ofNat code).toNat = code := UInt8.toNat_ofNat_of_lt' below
      simp only [isHexByte, value, Bool.or_eq_false_iff, Bool.and_eq_false_iff,
        decide_eq_false_iff_not]
      omega
    have listed : ∀ code < 128, isHexByte (UInt8.ofNat code) = true →
        Char.ofNat code ∈ hexAlphabet := by
      decide
    have isCode : Char.ofNat character.val.toNat = character := Char.ofNat_toNat character
    rw [String.utf8EncodeChar] at hexadecimal
    generalize character.val.toNat = code at hexadecimal isCode
    -- Every byte of a longer character is above the digits, so the first one tells.
    split at hexadecimal
    · rename_i one
      rw [← isCode]
      exact listed code (by omega) (by simpa using hexadecimal)
    split at hexadecimal
    · rw [List.all_cons, foreign (by omega) (by omega)] at hexadecimal
      exact nomatch hexadecimal
    split at hexadecimal
    · rw [List.all_cons, foreign (by omega) (by omega)] at hexadecimal
      exact nomatch hexadecimal
    · rw [List.all_cons, foreign (by omega) (by omega)] at hexadecimal
      exact nomatch hexadecimal
  · have written :
        (hexAlphabet.all fun digit => (String.utf8EncodeChar digit).all isHexByte) = true := rfl
    exact List.all_eq_true.mp written character

theorem all_isHexByte_encode_iff :
    (Utf8.encode digits).all isHexByte = true ↔ ∀ digit ∈ digits, digit ∈ hexAlphabet := by
  rw [Utf8.encode, List.all_flatMap, List.all_eq_true]
  simp only [all_isHexByte_iff]

/-- Hexadecimal digits have one byte each. -/
theorem utf8Size_of_mem {digit : Char} (member : digit ∈ hexAlphabet) : digit.utf8Size = 1 := by
  have single : (hexAlphabet.all fun digit => digit.utf8Size == 1) = true := rfl
  exact beq_iff_eq.mp (List.all_eq_true.mp single digit member)

theorem length_encode (hexadecimal : ∀ digit ∈ digits, digit ∈ hexAlphabet) :
    (Utf8.encode digits).length = digits.length := by
  induction digits with
  | nil => rfl
  | cons digit digits ih =>
      obtain ⟨isDigit, others⟩ := List.forall_mem_cons.mp hexadecimal
      rw [Utf8.encode_cons, List.length_append, String.length_utf8EncodeChar,
        utf8Size_of_mem isDigit, ih others, List.length_cons, Nat.add_comm]

theorem dropBytes?_append {before after : List Char}
    (hexadecimal : ∀ digit ∈ before, digit ∈ hexAlphabet) :
    dropBytes? (before ++ after) before.length = some after := by
  induction before with
  | nil => cases after <;> rfl
  | cons digit before ih =>
      obtain ⟨isDigit, others⟩ := List.forall_mem_cons.mp hexadecimal
      rw [List.cons_append, List.length_cons, dropBytes?, utf8Size_of_mem isDigit,
        if_pos (Nat.le_add_left 1 _), Nat.add_sub_cancel, ih others]

theorem byteOfDigits?_pair {high low : Char} {upper lower : Nat}
    (isUpper : hexValue? high = some upper) (isLower : hexValue? low = some lower) :
    byteOfDigits? [high, low] = some (UInt8.ofNat (upper * 16 + lower)) := by
  have upperSmall := lt_of_hexValue? isUpper
  have lowerSmall := lt_of_hexValue? isLower
  have unsigned : high ≠ '+' := by
    rintro rfl
    exact nomatch isUpper
  have values : [high, low].mapM hexValue? = some [upper, lower] := by
    rw [List.mapM_cons, List.mapM_cons, isUpper, isLower]
    rfl
  unfold byteOfDigits?
  split
  · rename_i signed
    exact absurd (List.cons.inj signed).1 unsigned
  · have number : hexNumber [upper, lower] = upper * 16 + lower := by
      rw [hexNumber, List.foldl_cons, List.foldl_cons, List.foldl_nil, Nat.zero_mul, Nat.zero_add]
    have fits : upper * 16 + lower < 256 := by omega
    simp [values, number, fits]

/-- **A channel is read by position** as it is read in order, whatever digits stand before. -/
theorem channelAt?_append {before : List Char} {index : Nat} {channel : UInt8}
    (hexadecimal : ∀ digit ∈ before, digit ∈ hexAlphabet)
    (areChannels : channels? digits = some channels) (isChannel : channels[index]? = some channel) :
    channelAt? (before ++ digits) (before.length + 2 * index) = some (some channel) := by
  induction digits using channels?.induct generalizing before channels index with
  | case1 =>
      obtain rfl := Option.some.inj areChannels
      exact nomatch isChannel
  | case2 digit => exact nomatch areChannels
  | case3 high low rest ih =>
      rw [channels?] at areChannels
      obtain ⟨upper, isUpper, reads⟩ := Option.bind_eq_some_iff.mp areChannels
      obtain ⟨lower, isLower, reads⟩ := Option.bind_eq_some_iff.mp reads
      obtain ⟨others, areOthers, reads⟩ := Option.bind_eq_some_iff.mp reads
      obtain rfl := Option.some.inj reads
      have isHigh := mem_hexAlphabet_of_hexValue? isUpper
      have isLow := mem_hexAlphabet_of_hexValue? isLower
      cases index with
      | zero =>
          obtain rfl := Option.some.inj isChannel
          have taken : takeBytes? (high :: low :: rest) 2 = some [high, low] := by
            simp [takeBytes?, utf8Size_of_mem isHigh, utf8Size_of_mem isLow]
          rw [channelAt?, slice?, Nat.mul_zero, Nat.add_zero, dropBytes?_append hexadecimal,
            Option.bind_some, Nat.add_sub_cancel_left, taken, Option.map_some,
            byteOfDigits?_pair isUpper isLower]
      | succ index =>
          have further : ∀ digit ∈ before ++ [high, low], digit ∈ hexAlphabet := by
            simpa [or_imp, forall_and] using ⟨hexadecimal, isHigh, isLow⟩
          have found := ih further areOthers isChannel
          have position : (before ++ [high, low]).length + 2 * index =
              before.length + 2 * (index + 1) := by
            rw [List.length_append, List.length_cons, List.length_singleton]
            omega
          rwa [List.append_assoc, position] at found

theorem hasHexBytes_iff :
    hasHexBytes digits = true ↔
      (digits.length = 6 ∨ digits.length = 8) ∧ ∀ digit ∈ digits, digit ∈ hexAlphabet := by
  rw [hasHexBytes, Bool.and_eq_true, Bool.or_eq_true, beq_iff_eq, beq_iff_eq,
    all_isHexByte_encode_iff]
  refine and_congr_left ?_
  intro hexadecimal
  rw [length_encode hexadecimal]

/-- The parts of six or eight digits exist. -/
theorem readParts_eq (hexadecimal : hasHexBytes digits = true) :
    readParts digits = some (ofDigits? ('#' :: digits)) := by
  obtain ⟨lengths, hexadecimal⟩ := hasHexBytes_iff.mp hexadecimal
  obtain ⟨channels, areChannels, length⟩ := exists_channels? (by omega) hexadecimal
  have found (index : Nat) {channel : UInt8} (isChannel : channels[index]? = some channel) :
      channelAt? digits (2 * index) = some (some channel) := by
    have part := channelAt?_append (List.forall_mem_nil _) areChannels isChannel
    rwa [List.nil_append, List.length_nil, Nat.zero_add] at part
  rw [readParts, length_encode hexadecimal, ofDigits?, areChannels, length]
  match channels, (by omega : channels.length = 3 ∨ channels.length = 4) with
  | [red, green, blue], _ =>
      have six : 2 * [red, green, blue].length ≠ 8 := nofun
      rw [if_neg six, found 0 rfl, found 1 rfl, found 2 rfl]
      rfl
  | [red, green, blue, alpha], _ =>
      have eight : 2 * [red, green, blue, alpha].length = 8 := rfl
      rw [if_pos eight, found 0 rfl, found 1 rfl, found 2 rfl, found 3 rfl]
      rfl

/-- **Reading by the positions of bytes** takes no part of a text that does not exist, and gives
what is read from the characters. -/
theorem readBytes_eq (text : String) : readBytes text = some (read text) := by
  have refused (unwritten : ¬ IsWritten text.toList) :
      some (.error (.color text)) = some (read text) := by
    rw [read_eq_error_iff.mpr unwritten]
  unfold readBytes
  split
  · rename_i digits opened
    split
    · rename_i hexadecimal
      rw [readParts_eq hexadecimal, read, opened]
      cases ofDigits? ('#' :: digits) <;> rfl
    · rename_i others
      refine refused ?_
      rintro ⟨written, split, hexadecimal⟩
      obtain rfl : digits = written := (List.cons.inj (opened.symm.trans split)).2
      exact others (hasHexBytes_iff.mpr hexadecimal)
  · rename_i unsigned
    refine refused ?_
    rintro ⟨digits, opened, -⟩
    exact unsigned digits opened

/-! ## Texts and colors -/

/-- **Texts and colors correspond.**  A text is read as a color exactly when it is written for one,
and refused otherwise, also when it is read by the positions of its bytes.  What is read is written
as the normal form of the text, and what is written is read back.  So two texts stand for one color
exactly when they have the same normal form. -/
theorem read_corresponds (text : String) :
    ((∃ color, read text = .ok color) ↔ IsWritten text.toList) ∧
    (read text = .error (.color text) ↔ ¬ IsWritten text.toList) ∧
    readBytes text = some (read text) ∧
    (∀ color : Color, read text = .ok color ↔ color.text.toList = normal text.toList) ∧
    (∀ color : Color, read color.text = .ok color) ∧
    (IsWritten text.toList →
      ∀ other, read other = read text ↔ normal other.toList = normal text.toList) := by
  refine ⟨exists_read_iff, read_eq_error_iff, readBytes_eq text, fun color => read_eq_ok_iff,
    read_text, ?_⟩
  intro written other
  obtain ⟨color, isColor⟩ := exists_read_iff.mpr written
  rw [isColor, read_eq_ok_iff, read_eq_ok_iff.mp isColor, eq_comm]

/-- An opaque color in small letters and with its opacity, and the same color as it is written. -/
theorem read_corresponds_small :
    IsWritten "#0a141eff".toList ∧
    (read "#0A141E" = read "#0a141eff" ↔
      normal "#0A141E".toList = normal "#0a141eff".toList) ∧
    normal "#0a141eff".toList = "#0A141E".toList := by
  have written : IsWritten "#0a141eff".toList :=
    ⟨['0', 'a', '1', '4', '1', 'e', 'f', 'f'], by decide, .inr rfl, by simp [hexAlphabet]⟩
  exact ⟨written, (read_corresponds "#0a141eff").2.2.2.2.2 written "#0A141E", by decide⟩

end MainsCharts.Color
