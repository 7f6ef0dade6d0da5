import MainsCharts.Proofs.Numeral.Digits

/-!
# The grammar of decimal numerals

A numeral is an optional sign, digits with an optional decimal mark among, before or behind them,
and an optional exponent (`IsNumeral`).  The reader of literals accepts the numerals and nothing
else (`read?_eq_some_iff`).  It cuts a text from left to right, each part as long as it can be, and
this is the only way to cut a numeral: no part can start with a character that the part before it
could still take.

Which characters are decimal marks is left open, as long as none of them has another meaning
(`AreMarks`).  A numeral with commas is a numeral with full stops once these are put in their place
(`IsNumeral.dotted`).
-/

namespace MainsCharts.Numeral

set_option autoImplicit false

variable {isMark : Char → Bool} {text rest whole decimals digits tail : List Char} {negative : Bool}

/-! ## Parts -/

/-- That a text has an optional sign in front of another. -/
inductive IsSigned : List Char → Bool → List Char → Prop where
  | bare (text : List Char) : IsSigned text false text
  | plus (text : List Char) : IsSigned ('+' :: text) false text
  | minus (text : List Char) : IsSigned ('-' :: text) true text

/-- The whole digits and the decimals of a text with an optional decimal mark. -/
inductive IsMantissa (isMark : Char → Bool) : List Char → List Char → List Char → Prop where
  | whole {whole : List Char} : IsDigits whole → IsMantissa isMark whole whole []
  | marked {whole decimals : List Char} {mark : Char} : IsDigits whole → isMark mark = true →
      (∀ digit ∈ decimals, digit.isDigit = true) →
      IsMantissa isMark (whole ++ mark :: decimals) whole decimals
  | decimals {decimals : List Char} {mark : Char} : isMark mark = true → IsDigits decimals →
      IsMantissa isMark (mark :: decimals) [] decimals

/-- The exponent that a text gives behind a letter, or zero for no text. -/
inductive IsExponent : List Char → Int → Prop where
  | absent : IsExponent [] 0
  | present {letter : Char} {text digits : List Char} {negative : Bool} :
      letter = 'e' ∨ letter = 'E' → IsSigned text negative digits → IsDigits digits →
      IsExponent (letter :: text)
        (if negative then -(digitsValue digits : Int) else digitsValue digits)

/-- **The numerals**, with the literals that they are written for. -/
inductive IsNumeral (isMark : Char → Bool) : List Char → Literal → Prop where
  | mk {text mantissa whole decimals tail : List Char} {negative : Bool} {exponent : Int} :
      IsSigned text negative (mantissa ++ tail) → IsMantissa isMark mantissa whole decimals →
      IsExponent tail exponent →
      IsNumeral isMark text ⟨negative, digitsValue (whole ++ decimals), exponent - decimals.length⟩

/-- That no decimal mark can be taken for another part of a numeral. -/
structure AreMarks (isMark : Char → Bool) : Prop where
  digit : ∀ character, character.isDigit = true → isMark character = false
  sign : isMark '+' = false ∧ isMark '-' = false
  letter : isMark 'e' = false ∧ isMark 'E' = false

theorem areMarks_isDecimalMark : AreMarks isDecimalMark := by
  refine ⟨?_, by decide, by decide⟩
  intro character isDigit
  rw [isDecimalMark, Bool.or_eq_false_iff, decide_eq_false_iff_not, decide_eq_false_iff_not]
  constructor
  · rintro rfl
    exact absurd isDigit (by decide)
  · rintro rfl
    exact absurd isDigit (by decide)

theorem areMarks_isFullStop : AreMarks isFullStop := by
  refine ⟨?_, by decide, by decide⟩
  intro character isDigit
  rw [isFullStop, decide_eq_false_iff_not]
  rintro rfl
  exact absurd isDigit (by decide)

/-! ## Signs -/

/-- That a text does not start with a sign. -/
def Unsigned (text : List Char) : Prop :=
  ∀ character ∈ text.head?, character ≠ '+' ∧ character ≠ '-'

theorem isSigned_splitSign (text : List Char) :
    IsSigned text (splitSign text).1 (splitSign text).2 := by
  unfold splitSign
  split
  · exact .plus _
  · exact .minus _
  · exact .bare _

/-- Only one sign is taken off. -/
theorem IsSigned.splitSign_eq (isSigned : IsSigned text negative rest) (unsigned : Unsigned rest) :
    splitSign text = (negative, rest) := by
  cases isSigned with
  | plus => rfl
  | minus => rfl
  | bare =>
      unfold splitSign
      split
      · exact absurd rfl (unsigned '+' rfl).1
      · exact absurd rfl (unsigned '-' rfl).2
      · rfl

theorem IsDigits.unsigned (isDigits : IsDigits digits) (rest : List Char) :
    Unsigned (digits ++ rest) := by
  obtain ⟨first, others, rfl⟩ := List.exists_cons_of_ne_nil isDigits.1
  have isDigit := isDigits.2 first List.mem_cons_self
  rintro _ ⟨⟩
  constructor
  · rintro rfl
    exact absurd isDigit (by decide)
  · rintro rfl
    exact absurd isDigit (by decide)

/-! ## Exponents -/

/-- **The exponent part** is read as its exponent, and nothing else is. -/
theorem readExponent?_eq_some_iff {exponent : Int} :
    readExponent? text = some exponent ↔ IsExponent text exponent := by
  constructor
  · intro read
    cases text with
    | nil =>
        obtain rfl := Option.some.inj read
        exact .absent
    | cons letter text =>
        rw [readExponent?] at read
        split at read
        case isFalse => exact nomatch read
        case isTrue isLetter =>
        have isSigned := isSigned_splitSign text
        dsimp only at read
        split at read
        case isTrue => exact nomatch read
        case isFalse present =>
        rw [not_or, not_not, List.isEmpty_iff, List.all_eq_true] at present
        obtain rfl := Option.some.inj read
        exact .present isLetter isSigned present
  · intro isExponent
    cases isExponent with
    | absent => rfl
    | present isLetter isSigned isDigits =>
        have unsigned := isDigits.unsigned []
        rw [List.append_nil] at unsigned
        rw [readExponent?, if_pos isLetter, isSigned.splitSign_eq unsigned]
        dsimp only
        rw [if_neg]
        rw [not_or, not_not, List.isEmpty_iff, List.all_eq_true]
        exact isDigits

/-! ## Mantissas -/

theorem IsMantissa.isDigit {mantissa : List Char}
    (isMantissa : IsMantissa isMark mantissa whole decimals) :
    (∀ digit ∈ whole, digit.isDigit = true) ∧ ∀ digit ∈ decimals, digit.isDigit = true := by
  cases isMantissa with
  | whole isDigits => exact ⟨isDigits.2, nofun⟩
  | marked isDigits _ others => exact ⟨isDigits.2, others⟩
  | decimals _ isDigits => exact ⟨nofun, isDigits.2⟩

/-- There is a digit before the mark or behind it. -/
theorem IsMantissa.ne_nil {mantissa : List Char}
    (isMantissa : IsMantissa isMark mantissa whole decimals) : ¬ (whole = [] ∧ decimals = []) := by
  cases isMantissa with
  | whole isDigits => exact fun nothing => isDigits.1 nothing.1
  | marked isDigits _ _ => exact fun nothing => isDigits.1 nothing.1
  | decimals _ isDigits => exact fun nothing => isDigits.1 nothing.2

/-- Digits and decimals as they are cut from a text are those of a mantissa. -/
theorem exists_isMantissa (text : List Char)
    (digit : ¬ (text.takeWhile Char.isDigit = [] ∧
      (splitFraction isMark (text.dropWhile Char.isDigit)).1 = [])) :
    ∃ mantissa, text = mantissa ++ (splitFraction isMark (text.dropWhile Char.isDigit)).2 ∧
      IsMantissa isMark mantissa (text.takeWhile Char.isDigit)
        (splitFraction isMark (text.dropWhile Char.isDigit)).1 := by
  have wholeDigits : ∀ digit ∈ text.takeWhile Char.isDigit, digit.isDigit = true :=
    fun _ member => List.mem_takeWhile_imp member
  have split : text.takeWhile Char.isDigit ++ text.dropWhile Char.isDigit = text :=
    List.takeWhile_append_dropWhile
  generalize text.takeWhile Char.isDigit = whole at *
  generalize text.dropWhile Char.isDigit = behind at *
  subst split
  cases behind with
  | nil => exact ⟨whole, rfl, .whole ⟨fun none => digit ⟨none, rfl⟩, wholeDigits⟩⟩
  | cons mark rest =>
      by_cases isMarked : isMark mark = true
      · have cut : splitFraction isMark (mark :: rest) =
            (rest.takeWhile Char.isDigit, rest.dropWhile Char.isDigit) := if_pos isMarked
        have decimalDigits : ∀ digit ∈ rest.takeWhile Char.isDigit, digit.isDigit = true :=
          fun _ member => List.mem_takeWhile_imp member
        rw [cut] at digit ⊢
        refine ⟨whole ++ mark :: rest.takeWhile Char.isDigit, ?_, ?_⟩
        · rw [List.append_assoc, List.cons_append, List.takeWhile_append_dropWhile]
        · by_cases nothing : whole = []
          · subst nothing
            exact .decimals isMarked ⟨fun none => digit ⟨rfl, none⟩, decimalDigits⟩
          · exact .marked ⟨nothing, wholeDigits⟩ isMarked decimalDigits
      · have cut : splitFraction isMark (mark :: rest) = ([], mark :: rest) := if_neg isMarked
        rw [cut] at digit ⊢
        exact ⟨whole, rfl, .whole ⟨fun none => digit ⟨none, rfl⟩, wholeDigits⟩⟩

/-- That a text does not go on with a digit or a decimal mark. -/
def EndsMantissa (isMark : Char → Bool) (text : List Char) : Prop :=
  ∀ character ∈ text.head?, character.isDigit = false ∧ isMark character = false

section Marks

variable (marks : AreMarks isMark)
include marks

theorem IsExponent.endsMantissa {exponent : Int} (isExponent : IsExponent tail exponent) :
    EndsMantissa isMark tail := by
  cases isExponent with
  | absent => exact nofun
  | present isLetter =>
      rintro _ ⟨⟩
      rcases isLetter with rfl | rfl
      · exact ⟨by decide, marks.letter.1⟩
      · exact ⟨by decide, marks.letter.2⟩

theorem IsMantissa.unsigned {mantissa : List Char}
    (isMantissa : IsMantissa isMark mantissa whole decimals) (tail : List Char) :
    Unsigned (mantissa ++ tail) := by
  have marked {mark : Char} (isMarked : isMark mark = true) : mark ≠ '+' ∧ mark ≠ '-' := by
    constructor
    · rintro rfl
      exact absurd isMarked (Bool.eq_false_iff.mp marks.sign.1)
    · rintro rfl
      exact absurd isMarked (Bool.eq_false_iff.mp marks.sign.2)
  cases isMantissa with
  | whole isDigits => exact isDigits.unsigned tail
  | marked isDigits =>
      rw [List.append_assoc]
      exact isDigits.unsigned _
  | decimals isMarked _ =>
      rintro _ ⟨⟩
      exact marked isMarked

/-- **A mantissa is cut** into its digits, whatever follows it. -/
theorem IsMantissa.split {mantissa : List Char}
    (isMantissa : IsMantissa isMark mantissa whole decimals) (ends : EndsMantissa isMark tail) :
    (mantissa ++ tail).takeWhile Char.isDigit = whole ∧
      splitFraction isMark ((mantissa ++ tail).dropWhile Char.isDigit) = (decimals, tail) := by
  have undigited : Undigited tail := fun character first => (ends character first).1
  have undigitedMark {mark : Char} (isMarked : isMark mark = true) (rest : List Char) :
      Undigited (mark :: rest) := by
    rintro _ ⟨⟩
    refine Bool.eq_false_iff.mpr fun isDigit => ?_
    exact absurd isMarked (Bool.eq_false_iff.mp (marks.digit mark isDigit))
  cases isMantissa with
  | whole isDigits =>
      obtain ⟨taken, dropped⟩ := takeWhile_isDigit_of_digits isDigits.2 undigited
      refine ⟨taken, ?_⟩
      rw [dropped]
      cases tail with
      | nil => rfl
      | cons character tail =>
          rw [splitFraction, if_neg (Bool.eq_false_iff.mp (ends character rfl).2)]
  | @marked _ _ mark isDigits isMarked others =>
      obtain ⟨taken, dropped⟩ := takeWhile_isDigit_of_digits isDigits.2
        (undigitedMark isMarked (decimals ++ tail))
      obtain ⟨takenBehind, droppedBehind⟩ := takeWhile_isDigit_of_digits others undigited
      rw [List.append_assoc, List.cons_append]
      refine ⟨taken, ?_⟩
      rw [dropped, splitFraction, if_pos isMarked, takenBehind, droppedBehind]
  | @decimals _ mark isMarked isDigits =>
      obtain ⟨taken, dropped⟩ :=
        takeWhile_isDigit_append [] (undigitedMark isMarked (decimals ++ tail))
      obtain ⟨takenBehind, droppedBehind⟩ := takeWhile_isDigit_of_digits isDigits.2 undigited
      refine ⟨taken, ?_⟩
      rw [List.cons_append]
      rw [List.nil_append, List.dropWhile_nil, List.nil_append] at dropped
      rw [dropped, splitFraction, if_pos isMarked, takenBehind, droppedBehind]

/-! ## Numerals -/

/-- **Exactly the numerals are read**, as what they are written for. -/
theorem read?_eq_some_iff {literal : Literal} :
    Literal.read? isMark text = some literal ↔ IsNumeral isMark text literal := by
  constructor
  · intro read
    have isSigned := isSigned_splitSign text
    unfold Literal.read? at read
    dsimp only at read
    split at read
    case isTrue => exact nomatch read
    case isFalse digit =>
    rw [List.isEmpty_iff, List.isEmpty_iff] at digit
    obtain ⟨mantissa, split, isMantissa⟩ := exists_isMantissa _ digit
    obtain ⟨exponent, readExponent, rfl⟩ := Option.map_eq_some_iff.mp read
    rw [split] at isSigned
    exact .mk isSigned isMantissa (readExponent?_eq_some_iff.mp readExponent)
  · -- What ends a part cannot belong to it, so the reader cuts a numeral where its parts end.
    rintro ⟨isSigned, isMantissa, isExponent⟩
    obtain ⟨taken, cut⟩ := isMantissa.split marks (isExponent.endsMantissa marks)
    unfold Literal.read?
    rw [isSigned.splitSign_eq (isMantissa.unsigned marks _)]
    dsimp only
    rw [taken, cut]
    dsimp only
    rw [if_neg, readExponent?_eq_some_iff.mpr isExponent, Option.map_some]
    rw [List.isEmpty_iff, List.isEmpty_iff]
    exact isMantissa.ne_nil

end Marks

example : Literal.read? isDecimalMark "-,5e3".toList = some ⟨true, 5, 2⟩ := by decide

theorem IsMantissa.text_ne_nil {mantissa : List Char}
    (isMantissa : IsMantissa isMark mantissa whole decimals) : mantissa ≠ [] := by
  cases isMantissa with
  | whole isDigits => exact isDigits.1
  | marked => exact List.append_ne_nil_of_right_ne_nil _ (List.cons_ne_nil _ _)
  | decimals => exact List.cons_ne_nil _ _

theorem IsNumeral.ne_nil {literal : Literal} (isNumeral : IsNumeral isMark text literal) :
    text ≠ [] := by
  obtain ⟨isSigned, isMantissa, -⟩ := isNumeral
  cases isSigned with
  | bare => exact List.append_ne_nil_of_left_ne_nil isMantissa.text_ne_nil _
  | plus => exact List.cons_ne_nil _ _
  | minus => exact List.cons_ne_nil _ _

/-- The characters of a numeral. -/
theorem IsNumeral.forall_mem {literal : Literal} {Holds : Char → Prop}
    (isNumeral : IsNumeral isMark text literal)
    (digit : ∀ character, character.isDigit = true → Holds character)
    (sign : Holds '+' ∧ Holds '-') (letter : Holds 'e' ∧ Holds 'E')
    (mark : ∀ character, isMark character = true → Holds character) :
    ∀ character ∈ text, Holds character := by
  have signed {text rest : List Char} {negative : Bool} (isSigned : IsSigned text negative rest)
      (others : ∀ character ∈ rest, Holds character) : ∀ character ∈ text, Holds character := by
    cases isSigned with
    | bare => exact others
    | plus => exact List.forall_mem_cons.mpr ⟨sign.1, others⟩
    | minus => exact List.forall_mem_cons.mpr ⟨sign.2, others⟩
  have allDigits {digits : List Char} (areDigits : ∀ digit ∈ digits, digit.isDigit = true) :
      ∀ character ∈ digits, Holds character :=
    fun character member => digit character (areDigits character member)
  obtain ⟨isSigned, isMantissa, isExponent⟩ := isNumeral
  refine signed isSigned (List.forall_mem_append.mpr ⟨?_, ?_⟩)
  · cases isMantissa with
    | whole isDigits => exact allDigits isDigits.2
    | marked isDigits isMarked others =>
        refine List.forall_mem_append.mpr ⟨allDigits isDigits.2, ?_⟩
        exact List.forall_mem_cons.mpr ⟨mark _ isMarked, allDigits others⟩
    | decimals isMarked isDigits =>
        exact List.forall_mem_cons.mpr ⟨mark _ isMarked, allDigits isDigits.2⟩
  · cases isExponent with
    | absent => exact nofun
    | present isLetter isOther isDigits =>
        refine List.forall_mem_cons.mpr ⟨?_, signed isOther (allDigits isDigits.2)⟩
        rcases isLetter with rfl | rfl
        · exact letter.1
        · exact letter.2

/-! ## Numbers that are typed in -/

/-- **A numeral is read** as a number. -/
theorem IsNumeral.readNumber_eq {literal : Literal}
    (isNumeral : IsNumeral isFullStop text literal) :
    readNumber text = .ok literal.toFloat := by
  have read := (read?_eq_some_iff areMarks_isFullStop).mpr isNumeral
  have nonempty : ¬ text.isEmpty = true := by
    rw [List.isEmpty_iff]
    exact isNumeral.ne_nil
  rw [readNumber, if_neg nonempty, read]

/-- What is read by its name is not finite, with either sign. -/
theorem isFinite_of_namedValue? {value : Float} (named : namedValue? text = some value) :
    value.isFinite = false ∧ (-value).isFinite = false := by
  unfold namedValue? at named
  split at named
  · obtain rfl := Option.some.inj named
    decide
  · obtain rfl := Option.some.inj named
    decide
  · obtain rfl := Option.some.inj named
    decide
  · exact nomatch named

/-- **A finite number is read** from the numerals and nothing else. -/
theorem readNumber_eq_ok_iff_of_isFinite {value : Float} (finite : value.isFinite = true) :
    readNumber text = .ok value ↔
      ∃ literal, IsNumeral isFullStop text literal ∧ literal.toFloat = value := by
  constructor
  · intro read
    unfold readNumber at read
    split at read
    case isTrue => exact nomatch read
    case isFalse =>
    split at read
    · rename_i literal isLiteral
      exact ⟨literal, (read?_eq_some_iff areMarks_isFullStop).mp isLiteral, Except.ok.inj read⟩
    · dsimp only at read
      split at read
      · rename_i named
        obtain ⟨infinite, infiniteToo⟩ := isFinite_of_namedValue? named
        obtain rfl := Except.ok.inj read
        split at finite
        · exact absurd (infiniteToo.symm.trans finite) Bool.false_ne_true
        · exact absurd (infinite.symm.trans finite) Bool.false_ne_true
      · exact nomatch read
  · rintro ⟨literal, isNumeral, rfl⟩
    exact isNumeral.readNumber_eq

/-- **A whole number is read** from digits with an optional plus in front of them, unless it is too
large. -/
theorem readUnsigned_eq_ok_iff {most value : Nat} : readUnsigned most text = .ok value ↔
    ∃ digits, IsSigned text false digits ∧ IsDigits digits ∧ digitsValue digits = value ∧
      value ≤ most := by
  have read {digits : List Char} : readDigits most .tooLarge digits = .ok value ↔
      IsDigits digits ∧ digitsValue digits = value ∧ value ≤ most := by
    rw [← digitsUpTo?_eq_some_iff, digitsUpTo?]
    cases readDigits most .tooLarge digits <;> simp [Except.toOption]
  unfold readUnsigned
  split
  · refine iff_of_false (by simp) ?_
    rintro ⟨digits, isSigned, isDigits, -⟩
    cases isSigned
    exact isDigits.1 rfl
  · rename_i rest
    rw [read]
    constructor
    · exact fun digits => ⟨rest, .plus rest, digits⟩
    · rintro ⟨digits, isSigned, isDigits, fits⟩
      cases isSigned with
      | plus => exact ⟨isDigits, fits⟩
      | bare => exact absurd (isDigits.2 '+' List.mem_cons_self) (by decide)
  · rename_i unsigned
    rw [read]
    constructor
    · exact fun digits => ⟨text, .bare text, digits⟩
    · rintro ⟨digits, isSigned, isDigits, fits⟩
      cases isSigned with
      | plus => exact absurd rfl (unsigned digits)
      | bare => exact ⟨isDigits, fits⟩

/-! ## Commas -/

/-- A text with full stops for its commas. -/
def dotted (text : List Char) : List Char :=
  text.map fun character => if character = ',' then '.' else character

theorem dotted_digits (areDigits : ∀ digit ∈ digits, digit.isDigit = true) :
    dotted digits = digits := by
  refine (List.map_congr_left fun digit member => if_neg ?_).trans (List.map_id' digits)
  rintro rfl
  exact absurd (areDigits ',' member) (by decide)

theorem dotted_mark {mark : Char} (isMarked : isDecimalMark mark = true) (rest : List Char) :
    dotted (mark :: rest) = '.' :: dotted rest := by
  rw [isDecimalMark, Bool.or_eq_true, decide_eq_true_iff, decide_eq_true_iff] at isMarked
  rcases isMarked with rfl | rfl <;> rfl

theorem IsSigned.dotted (isSigned : IsSigned text negative rest) :
    IsSigned (dotted text) negative (dotted rest) := by
  cases isSigned with
  | bare => exact .bare _
  | plus => exact .plus _
  | minus => exact .minus _

theorem IsMantissa.dotted {mantissa : List Char}
    (isMantissa : IsMantissa isDecimalMark mantissa whole decimals) :
    IsMantissa isFullStop (dotted mantissa) whole decimals := by
  cases isMantissa with
  | whole isDigits =>
      rw [dotted_digits isDigits.2]
      exact .whole isDigits
  | marked isDigits isMarked others =>
      rw [Numeral.dotted, List.map_append, ← Numeral.dotted, ← Numeral.dotted,
        dotted_digits isDigits.2, dotted_mark isMarked, dotted_digits others]
      exact .marked isDigits rfl others
  | decimals isMarked isDigits =>
      rw [dotted_mark isMarked, dotted_digits isDigits.2]
      exact .decimals rfl isDigits

theorem IsExponent.dotted {exponent : Int} (isExponent : IsExponent text exponent) :
    IsExponent (dotted text) exponent := by
  cases isExponent with
  | absent => exact .absent
  | @present letter text digits negative isLetter isSigned isDigits =>
      have signed := isSigned.dotted
      rw [dotted_digits isDigits.2] at signed
      have kept : Numeral.dotted (letter :: text) = letter :: Numeral.dotted text := by
        rcases isLetter with rfl | rfl <;> rfl
      rw [kept]
      exact .present isLetter signed isDigits

/-- **A numeral with commas** is one with full stops once these are put in their place. -/
theorem IsNumeral.dotted {literal : Literal} (isNumeral : IsNumeral isDecimalMark text literal) :
    IsNumeral isFullStop (dotted text) literal := by
  obtain ⟨isSigned, isMantissa, isExponent⟩ := isNumeral
  have signed := isSigned.dotted
  rw [Numeral.dotted, Numeral.dotted, List.map_append, ← Numeral.dotted, ← Numeral.dotted,
    ← Numeral.dotted] at signed
  exact .mk signed isMantissa.dotted isExponent.dotted

/-- **No numeral is refused** by the reader of numbers once its commas are full stops. -/
theorem IsNumeral.readNumber_dotted {literal : Literal}
    (isNumeral : IsNumeral isDecimalMark text literal) :
    readNumber (Numeral.dotted text) = .ok literal.toFloat :=
  isNumeral.dotted.readNumber_eq

end MainsCharts.Numeral
