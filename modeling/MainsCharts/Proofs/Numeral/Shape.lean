import MainsCharts.Numeral.Shortest

/-!
# The shape of numerals

A plain numeral is an optional minus sign, digits, and optionally a point with
further digits behind it.  Whole numbers are written in this shape, and so are all
doubles that are finite, whatever their magnitude (`isPlain_shortest`): there is
never an exponent, a bare point or a separator between groups of digits.
-/

namespace MainsCharts.Numeral

set_option autoImplicit false

open Float.Model

/-- The digits after a point, when there is a point. -/
def isFraction : List Char → Bool
  | [] => true
  | '.' :: digits => !digits.isEmpty && digits.all Char.isDigit
  | _ => false

/-- A numeral without a sign. -/
def isMagnitude (text : List Char) : Bool :=
  !(text.takeWhile Char.isDigit).isEmpty && isFraction (text.dropWhile Char.isDigit)

/-- A numeral in positional notation. -/
def isPlain : List Char → Bool
  | '-' :: magnitude => isMagnitude magnitude
  | magnitude => isMagnitude magnitude

/-- The characters of plain numerals. -/
def isNumeralCharacter (character : Char) : Bool :=
  character.isDigit || character == '-' || character == '.'

theorem all_isDigit_toDigits (value : Nat) : (Nat.toDigits 10 value).all Char.isDigit = true := by
  rw [List.all_eq_true]
  intro digit member
  exact Nat.isDigit_of_mem_toDigits (by decide) (by decide) member

theorem isDigit_of_mem_repr {value : Nat} {character : Char}
    (member : character ∈ (Nat.repr value).toList) : character.isDigit = true := by
  rw [Nat.toList_repr] at member
  exact List.all_eq_true.mp (all_isDigit_toDigits value) character member

/-- What follows the whole part does not start with a digit. -/
theorem takeWhile_isDigit_of_isFraction {fraction : List Char}
    (ended : isFraction fraction = true) :
    fraction.takeWhile Char.isDigit = [] ∧ fraction.dropWhile Char.isDigit = fraction := by
  unfold isFraction at ended
  split at ended
  · exact ⟨rfl, rfl⟩
  · exact ⟨rfl, rfl⟩
  · exact Bool.noConfusion ended

/-- Digits, and behind them nothing or a point with digits. -/
theorem isMagnitude_append {whole fraction : List Char} (nonempty : whole ≠ [])
    (digits : whole.all Char.isDigit = true) (ended : isFraction fraction = true) :
    isMagnitude (whole ++ fraction) = true := by
  rw [List.all_eq_true] at digits
  obtain ⟨stops, rest⟩ := takeWhile_isDigit_of_isFraction ended
  rw [isMagnitude, List.takeWhile_append_of_pos digits, List.dropWhile_append_of_pos digits,
    stops, rest, List.append_nil, ended]
  simpa using nonempty

theorem isMagnitude_toDigits (value : Nat) : isMagnitude (Nat.toDigits 10 value) = true := by
  have nonempty : Nat.toDigits 10 value ≠ [] := Nat.toDigits_ne_nil
  have shaped : isMagnitude (Nat.toDigits 10 value ++ []) = true :=
    isMagnitude_append nonempty (all_isDigit_toDigits value) rfl
  rwa [List.append_nil] at shaped

theorem isMagnitude_fixedPoint (places units : Nat) :
    isMagnitude (fixedPoint places units) = true := by
  rw [fixedPoint]
  split
  · exact isMagnitude_toDigits units
  · refine isMagnitude_append Nat.toDigits_ne_nil (all_isDigit_toDigits _) ?_
    simp only [isFraction, paddedDigits, List.all_append, all_isDigit_toDigits, Bool.and_true]
    simp [Nat.toDigits_ne_nil]

theorem isMagnitude_positional (number : Decimal) : isMagnitude number.positional = true := by
  rw [Decimal.positional]
  split
  · exact isMagnitude_fixedPoint _ _
  · exact isMagnitude_fixedPoint _ _

/-- A magnitude starts with a digit, so no sign is read from it. -/
theorem isPlain_of_isMagnitude {text : List Char} (shaped : isMagnitude text = true) :
    isPlain text = true := by
  match text, shaped with
  | '-' :: _, shaped => exact absurd shaped (by simp [isMagnitude])
  | [], shaped => exact absurd shaped (by decide)
  | character :: rest, shaped =>
      rw [isPlain]
      · exact shaped
      · rintro magnitude ⟨rfl, rfl⟩
        simp [isMagnitude] at shaped

theorem isPlain_signText_append (sign : UnpackedFloat.Sign) {text : List Char}
    (shaped : isMagnitude text = true) : isPlain (signText sign ++ text) = true := by
  cases sign with
  | positive => exact isPlain_of_isMagnitude shaped
  | negative => exact shaped

/-- **A double is written as a plain numeral**, unless it has no digits. -/
theorem isPlain_shortest (value : Float) :
    isPlain (shortest value) = true ∨ value.toModel.unpack = .notANumber ∨
      ∃ sign, value.toModel.unpack = .infinity sign := by
  cases kind : value.toModel.unpack with
  | notANumber => exact .inr (.inl rfl)
  | infinity sign => exact .inr (.inr ⟨sign, rfl⟩)
  | zero sign =>
      refine .inl ?_
      rw [shortest, numeral, kind]
      exact isPlain_signText_append sign (by decide)
  | finite sign mantissa exponent _ =>
      refine .inl ?_
      rw [shortest, numeral, kind]
      exact isPlain_signText_append sign (isMagnitude_positional _)

theorem isPlain_natRepr (value : Nat) : isPlain (Nat.repr value).toList = true := by
  rw [Nat.toList_repr]
  exact isPlain_of_isMagnitude (isMagnitude_toDigits value)

theorem isPlain_intRepr (value : Int) : isPlain (Int.repr value).toList = true := by
  cases value with
  | ofNat value => exact isPlain_natRepr value
  | negSucc value =>
      rw [Int.repr, String.toList_append, Nat.toList_repr]
      exact isMagnitude_toDigits (value + 1)

/-! ## The characters of a numeral -/

theorem isNumeralCharacter_of_isDigit {character : Char} (digit : character.isDigit = true) :
    isNumeralCharacter character = true := by
  rw [isNumeralCharacter, digit]
  rfl

theorem isNumeralCharacter_of_isFraction {fraction : List Char}
    (ended : isFraction fraction = true) :
    ∀ character ∈ fraction, isNumeralCharacter character = true := by
  unfold isFraction at ended
  split at ended
  · simp
  · rw [Bool.and_eq_true, List.all_eq_true] at ended
    intro character member
    rcases List.mem_cons.mp member with rfl | digit
    · rfl
    · exact isNumeralCharacter_of_isDigit (ended.2 character digit)
  · exact Bool.noConfusion ended

theorem isNumeralCharacter_of_isMagnitude {text : List Char} (shaped : isMagnitude text = true) :
    ∀ character ∈ text, isNumeralCharacter character = true := by
  intro character member
  rw [isMagnitude, Bool.and_eq_true] at shaped
  have parts : text.takeWhile Char.isDigit ++ text.dropWhile Char.isDigit = text :=
    List.takeWhile_append_dropWhile
  rw [← parts, List.mem_append] at member
  rcases member with whole | fraction
  · exact isNumeralCharacter_of_isDigit (List.all_eq_true.mp List.all_takeWhile character whole)
  · exact isNumeralCharacter_of_isFraction shaped.2 character fraction

/-- A plain numeral is made of digits, a sign and a point. -/
theorem isNumeralCharacter_of_isPlain {text : List Char} (shaped : isPlain text = true) :
    ∀ character ∈ text, isNumeralCharacter character = true := by
  unfold isPlain at shaped
  split at shaped
  · intro character member
    rcases List.mem_cons.mp member with rfl | rest
    · rfl
    · exact isNumeralCharacter_of_isMagnitude shaped character rest
  · exact isNumeralCharacter_of_isMagnitude shaped

theorem exists_isDigit_of_isMagnitude {text : List Char} (shaped : isMagnitude text = true) :
    ∃ character ∈ text, character.isDigit = true := by
  rw [isMagnitude, Bool.and_eq_true, Bool.not_eq_true', List.isEmpty_eq_false_iff] at shaped
  obtain ⟨digit, member⟩ := List.exists_mem_of_ne_nil _ shaped.1
  exact ⟨digit, (List.takeWhile_prefix Char.isDigit).mem member,
    List.all_eq_true.mp List.all_takeWhile digit member⟩

/-- A plain numeral has a digit in it. -/
theorem exists_isDigit_of_isPlain {text : List Char} (shaped : isPlain text = true) :
    ∃ character ∈ text, character.isDigit = true := by
  unfold isPlain at shaped
  split at shaped
  · obtain ⟨digit, member, isDigit⟩ := exists_isDigit_of_isMagnitude shaped
    exact ⟨digit, List.mem_cons_of_mem _ member, isDigit⟩
  · exact exists_isDigit_of_isMagnitude shaped

end MainsCharts.Numeral
