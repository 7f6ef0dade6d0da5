import Mathlib.Data.List.TakeWhile
import MainsCharts.Numeral.Literal
import MainsCharts.Proofs.Numeral.Shape
import MainsCharts.Proofs.Numeral.Value

/-!
# The numbers that numerals denote

A decimal numeral denotes the number that its digits give, a tenth for each digit behind the
point.  The numeral is read by the reader of literals, before anything is rounded
(`Literal.value`); a text denotes one number at most (`Denotes.unique`).
-/

namespace MainsCharts.Numeral

set_option autoImplicit false

open Float.Model

/-- The exact value of a literal. -/
def Literal.value (literal : Literal) : ℚ :=
  (if literal.negative then -1 else 1) * literal.digits * (10 : ℚ) ^ literal.exponent

/-- That a text is a numeral in positional notation, and the number that it denotes. -/
def Denotes (text : List Char) (number : ℚ) : Prop :=
  isPlain text = true ∧
    ∃ literal, Literal.read? isFullStop text = some literal ∧ literal.value = number

theorem Denotes.unique {text : List Char} {number other : ℚ} (denotes : Denotes text number)
    (denotesOther : Denotes text other) : number = other := by
  obtain ⟨_, literal, reads, rfl⟩ := denotes
  obtain ⟨_, literalOther, readsOther, rfl⟩ := denotesOther
  rw [reads] at readsOther
  rw [Option.some.inj readsOther]

/-! ## Digits -/

/-- Zeros behind digits are a power of ten. -/
theorem digitsValue_append_zeros (digits : List Char) (count : Nat) :
    digitsValue (digits ++ List.replicate count '0') = 10 ^ count * digitsValue digits := by
  rw [digitsValue, Nat.ofDigitChars_append, Nat.ofDigitChars_replicate_zero]
  rfl

/-- Zeros in front of digits do not count. -/
theorem digitsValue_paddedDigits (width value : Nat) :
    digitsValue (paddedDigits width value) = value := by
  rw [paddedDigits, digitsValue, Nat.ofDigitChars_append, Nat.ofDigitChars_replicate_zero,
    Nat.mul_zero, Nat.ofDigitChars_ten_toDigits]

theorem length_paddedDigits {width value : Nat} (wide : 0 < width) (fits : value < 10 ^ width) :
    (paddedDigits width value).length = width := by
  have short := (Nat.length_toDigits_le_iff (by decide) wide).mpr fits
  rw [paddedDigits, List.length_append, List.length_replicate]
  omega

theorem all_isDigit_paddedDigits (width value : Nat) :
    (paddedDigits width value).all Char.isDigit = true := by
  rw [paddedDigits, List.all_append, all_isDigit_toDigits, Bool.and_true, List.all_replicate]
  simp

/-- The digits of a number of units, those of whole ones and those behind the point. -/
theorem digitsValue_units {places : Nat} (positive : 0 < places) (units : Nat) :
    digitsValue (Nat.toDigits 10 (units / 10 ^ places) ++
      paddedDigits places (units % 10 ^ places)) = units := by
  have fits : units % 10 ^ places < 10 ^ places := Nat.mod_lt _ (Nat.pow_pos (by decide))
  have behind := digitsValue_paddedDigits places (units % 10 ^ places)
  rw [digitsValue] at behind
  rw [digitsValue, Nat.ofDigitChars_append, Nat.ofDigitChars_ten_toDigits,
    Nat.ofDigitChars_eq_ofDigitChars_zero, behind, length_paddedDigits positive fits]
  exact Nat.div_add_mod units (10 ^ places)

/-- The digits of a number do not start with a zero, except for zero itself. -/
theorem head?_toDigits_ne_zero {value : Nat} (positive : 0 < value) :
    (Nat.toDigits 10 value).head? ≠ some '0' := by
  induction value using Nat.strong_induction_on with
  | _ value ih =>
      by_cases single : value < 10
      · rw [Nat.toDigits_of_lt_base single, List.head?_cons]
        intro zero
        have digit := Nat.toNat_digitChar_of_lt_ten single
        rw [Option.some.inj zero] at digit
        have code : ('0' : Char).toNat = 48 := rfl
        omega
      · have split : Nat.toDigits 10 value =
            Nat.toDigits 10 (value / 10) ++ Nat.toDigits 10 (value % 10) := by
          rw [Nat.toDigits_append_toDigits (by decide) (by omega) (Nat.mod_lt _ (by decide)),
            Nat.div_add_mod]
        have front := ih (value / 10) (by omega) (by omega)
        obtain ⟨first, rest, digits⟩ := List.exists_cons_of_ne_nil
          (Nat.toDigits_ne_nil : Nat.toDigits 10 (value / 10) ≠ [])
        rw [digits] at front
        rwa [split, digits, List.cons_append, List.head?_cons]

/-! ## Positional notation -/

/-- Decimals behind a point, if there are any. -/
def pointed (decimals : List Char) : List Char :=
  if decimals.isEmpty then [] else '.' :: decimals

variable {whole decimals : List Char}

theorem isFraction_pointed (digits : decimals.all Char.isDigit = true) :
    isFraction (pointed decimals) = true := by
  unfold pointed
  split
  · rfl
  · rename_i nonempty
    rw [isFraction, digits, Bool.and_true, Bool.not_eq_true']
    exact Bool.eq_false_iff.mpr nonempty

/-- A fraction is read behind whatever counts as a point. -/
theorem splitFraction_cons {isPoint : Char → Bool} {point : Char} (counts : isPoint point = true)
    (digits : decimals.all Char.isDigit = true) :
    splitFraction isPoint (point :: decimals) = (decimals, []) := by
  have taken : decimals.takeWhile Char.isDigit = decimals :=
    List.takeWhile_eq_self_iff.mpr (List.all_eq_true.mp digits)
  have dropped : decimals.dropWhile Char.isDigit = [] :=
    List.dropWhile_eq_nil_iff.mpr (List.all_eq_true.mp digits)
  rw [splitFraction, if_pos counts, taken, dropped]

theorem splitFraction_pointed (digits : decimals.all Char.isDigit = true) :
    splitFraction isFullStop (pointed decimals) = (decimals, []) := by
  unfold pointed
  split
  · rename_i none
    rw [List.isEmpty_iff.mp none]
    rfl
  · exact splitFraction_cons (by decide) digits

/-- The sign of a numeral is read from the front of its digits. -/
theorem splitSign_signText (sign : UnpackedFloat.Sign) {text : List Char}
    (digit : ∃ first rest, text = first :: rest ∧ first.isDigit = true) :
    splitSign (signText sign ++ text) = (sign == .negative, text) := by
  cases sign with
  | negative => rfl
  | positive =>
      obtain ⟨first, rest, rfl, digit⟩ := digit
      rw [signText, List.nil_append]
      unfold splitSign
      split
      · rename_i written
        obtain ⟨rfl, _⟩ := List.cons.inj written
        exact nomatch digit
      · rename_i written
        obtain ⟨rfl, _⟩ := List.cons.inj written
        exact nomatch digit
      · rfl

/-- Digits with a fraction behind them are read as a literal. -/
theorem read?_of_fraction {isPoint : Char → Bool} {fraction : List Char}
    (sign : UnpackedFloat.Sign) (nonempty : whole ≠ []) (digits : whole.all Char.isDigit = true)
    (stops : fraction.takeWhile Char.isDigit = [])
    (rest : fraction.dropWhile Char.isDigit = fraction)
    (splits : splitFraction isPoint fraction = (decimals, [])) :
    Literal.read? isPoint (signText sign ++ (whole ++ fraction)) =
      some ⟨sign == .negative, digitsValue (whole ++ decimals), -decimals.length⟩ := by
  have allDigits := List.all_eq_true.mp digits
  have startsWithDigit : ∃ first others, whole ++ fraction = first :: others ∧
      first.isDigit = true := by
    obtain ⟨first, others, rfl⟩ := List.exists_cons_of_ne_nil nonempty
    exact ⟨first, others ++ fraction, rfl, allDigits first List.mem_cons_self⟩
  rw [Literal.read?, splitSign_signText sign startsWithDigit]
  simp only [List.takeWhile_append_of_pos allDigits, List.dropWhile_append_of_pos allDigits, stops,
    rest, List.append_nil, splits, readExponent?]
  rw [if_neg (by simp [nonempty]), Option.map_some, Int.zero_sub]

/-- **The numeral of some digits** is read as them. -/
theorem read?_positional (sign : UnpackedFloat.Sign) (nonempty : whole ≠ [])
    (digits : whole.all Char.isDigit = true) (decimalDigits : decimals.all Char.isDigit = true) :
    Literal.read? isFullStop (signText sign ++ (whole ++ pointed decimals)) =
      some ⟨sign == .negative, digitsValue (whole ++ decimals), -decimals.length⟩ := by
  obtain ⟨stops, rest⟩ := takeWhile_isDigit_of_isFraction (isFraction_pointed decimalDigits)
  exact read?_of_fraction sign nonempty digits stops rest (splitFraction_pointed decimalDigits)

/-- **The numeral of some digits denotes** their number, a tenth for each decimal. -/
theorem denotes_positional (sign : UnpackedFloat.Sign) (nonempty : whole ≠ [])
    (digits : whole.all Char.isDigit = true) (decimalDigits : decimals.all Char.isDigit = true) :
    Denotes (signText sign ++ (whole ++ pointed decimals))
      (signed sign (digitsValue (whole ++ decimals) / 10 ^ decimals.length)) := by
  refine ⟨?_, _, read?_positional sign nonempty digits decimalDigits, ?_⟩
  · exact isPlain_signText_append sign
      (isMagnitude_append nonempty digits (isFraction_pointed decimalDigits))
  · rw [Literal.value, zpow_neg, zpow_natCast]
    cases sign with
    | positive =>
        change (1 : ℚ) * digitsValue (whole ++ decimals) * _ = _
        rw [signed, div_eq_mul_inv, one_mul]
    | negative =>
        change (-1 : ℚ) * digitsValue (whole ++ decimals) * _ = _
        rw [signed, div_eq_mul_inv, neg_one_mul, neg_mul]

end MainsCharts.Numeral
