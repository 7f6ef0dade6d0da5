import Mathlib.Data.List.DropRight
import MainsCharts.Numeral.FixedPoint
import MainsCharts.Proofs.Numeral.Denotation
import MainsCharts.Proofs.Numeral.Nearest

/-!
# What axis limits denote

A limit is written with ten places, and the zeros at its end are dropped, which leaves the
number as it is.  So the text of a finite limit denotes the nearest number of units of
`10 ^ -10` (`denotes_limitText`), and texts are in the order of the limits unless these are
rounded to the same number (`ascending_limitText_iff`).  The text of any other double is no numeral.
-/

namespace MainsCharts

set_option autoImplicit false

open Numeral Float.Model

/-! ## Characters at the end -/

/-- A text is what is left of it and repetitions of the character that was dropped. -/
theorem exists_dropTrailing (character : Char) (text : List Char) :
    ∃ count, text = dropTrailing character text ++ List.replicate count character := by
  refine ⟨(text.rtakeWhile (· = character)).length, ?_⟩
  have dropped : text.rtakeWhile (· = character) =
      List.replicate (text.rtakeWhile (· = character)).length character := by
    refine List.eq_replicate_iff.mpr ⟨rfl, ?_⟩
    intro other member
    exact of_decide_eq_true
      (List.mem_rtakeWhile_imp (p := (· = character)) member)
  rw [← dropped]
  exact (List.rdropWhile_append_rtakeWhile).symm

/-- What is left does not end in the character that was dropped. -/
theorem getLast?_dropTrailing (character : Char) (text : List Char) :
    (dropTrailing character text).getLast? ≠ some character := by
  have behind := List.head?_dropWhile_not (fun other => decide (other = character)) text.reverse
  intro same
  rw [dropTrailing, List.getLast?_reverse] at same
  rw [same] at behind
  exact absurd rfl (of_decide_eq_false behind)

/-- Repetitions of a character are dropped from behind a text that does not end in it. -/
theorem dropTrailing_append_replicate {character : Char} {text : List Char}
    (ends : text.getLast? ≠ some character) (count : Nat) :
    dropTrailing character (text ++ List.replicate count character) = text := by
  have repeated : ∀ other ∈ List.replicate count character, decide (other = character) = true := by
    intro other member
    exact decide_eq_true (List.eq_of_mem_replicate member)
  rw [dropTrailing, List.reverse_append, List.reverse_replicate,
    List.dropWhile_append_of_pos repeated]
  rcases List.eq_nil_or_concat text with rfl | ⟨front, last, rfl⟩
  · rfl
  · rw [List.concat_eq_append, List.getLast?_concat] at ends
    have other : last ≠ character := fun same => ends (congrArg some same)
    rw [List.concat_eq_append, List.reverse_append, List.reverse_singleton, List.singleton_append,
      List.dropWhile_cons, if_neg (by simpa using other), List.reverse_cons, List.reverse_reverse]

/-! ## The digits of a limit -/

/-- The decimals that are left of ten. -/
def limitDecimals (units : Nat) : List Char :=
  dropTrailing '0' (paddedDigits 10 (units % 10 ^ 10))

/-- Ten decimals are what is left of them and zeros. -/
theorem paddedDigits_eq_limitDecimals_append (units : Nat) :
    (limitDecimals units).length ≤ 10 ∧
      paddedDigits 10 (units % 10 ^ 10) =
        limitDecimals units ++ List.replicate (10 - (limitDecimals units).length) '0' := by
  have fits : units % 10 ^ 10 < 10 ^ 10 := Nat.mod_lt _ (by decide)
  obtain ⟨count, split⟩ := exists_dropTrailing '0' (paddedDigits 10 (units % 10 ^ 10))
  have long := length_paddedDigits (by decide) fits
  rw [← limitDecimals] at split
  rw [split, List.length_append, List.length_replicate] at long
  have rest : 10 - (limitDecimals units).length = count := by omega
  exact ⟨by omega, rest ▸ split⟩

theorem all_isDigit_limitDecimals (units : Nat) :
    (limitDecimals units).all Char.isDigit = true := by
  have digits := all_isDigit_paddedDigits 10 (units % 10 ^ 10)
  rw [(paddedDigits_eq_limitDecimals_append units).2, List.all_append, Bool.and_eq_true] at digits
  exact digits.1

/-- A text that goes on with digits does not end in a point. -/
theorem getLast?_append_digits {digits : List Char} (nonempty : digits ≠ [])
    (allDigits : digits.all Char.isDigit = true) (front : List Char) :
    (front ++ digits).getLast? ≠ some '.' := by
  rw [List.getLast?_append_of_ne_nil _ nonempty]
  intro last
  exact nomatch List.all_eq_true.mp allDigits '.' (List.mem_of_getLast? last)

/-- Text without the zeros at its end, and without the point when no decimal is left. -/
theorem dropTrailing_fixedPoint (sign : UnpackedFloat.Sign) (units : Nat) :
    dropTrailing '.' (dropTrailing '0' (signText sign ++ fixedPoint 10 units)) =
      signText sign ++ (Nat.toDigits 10 (units / 10 ^ 10) ++ pointed (limitDecimals units)) := by
  have split := (paddedDigits_eq_limitDecimals_append units).2
  have text : signText sign ++ fixedPoint 10 units =
      (signText sign ++ Nat.toDigits 10 (units / 10 ^ 10)) ++ '.' :: limitDecimals units ++
        List.replicate (10 - (limitDecimals units).length) '0' := by
    rw [fixedPoint, if_neg (by decide), split]
    simp only [List.append_assoc, List.cons_append]
  have ends : ((signText sign ++ Nat.toDigits 10 (units / 10 ^ 10)) ++
      '.' :: limitDecimals units).getLast? ≠ some '0' := by
    have unlike := getLast?_dropTrailing '0' (paddedDigits 10 (units % 10 ^ 10))
    rw [← limitDecimals] at unlike
    rw [List.getLast?_append_cons, List.getLast?_cons]
    intro last
    cases decimal : (limitDecimals units).getLast? with
    | none =>
        rw [decimal] at last
        exact absurd last (by decide)
    | some digit =>
        rw [decimal] at last unlike
        exact unlike last
  rw [text, dropTrailing_append_replicate ends, pointed, ← List.append_assoc]
  cases decimals : limitDecimals units with
  | nil =>
      have whole := getLast?_append_digits Nat.toDigits_ne_nil
        (all_isDigit_toDigits (units / 10 ^ 10)) (signText sign)
      exact (dropTrailing_append_replicate whole 1).trans (List.append_nil _).symm
  | cons first rest =>
      have digits := all_isDigit_limitDecimals units
      rw [decimals] at digits
      have undotted := getLast?_append_digits (List.cons_ne_nil first rest) digits
        (signText sign ++ Nat.toDigits 10 (units / 10 ^ 10) ++ ['.'])
      have kept := dropTrailing_append_replicate undotted 0
      rw [List.replicate_zero, List.append_nil, List.append_assoc] at kept
      exact kept

/-- The number is the same without the zeros at its end. -/
theorem digitsValue_limitDecimals (units : Nat) :
    (digitsValue (Nat.toDigits 10 (units / 10 ^ 10) ++ limitDecimals units) : ℚ) /
      10 ^ (limitDecimals units).length = units / 10 ^ 10 := by
  obtain ⟨short, split⟩ := paddedDigits_eq_limitDecimals_append units
  have value := digitsValue_units (show 0 < 10 by decide) units
  rw [split, ← List.append_assoc, digitsValue_append_zeros] at value
  have scale : 10 ^ (limitDecimals units).length * 10 ^ (10 - (limitDecimals units).length) =
      10 ^ 10 := by
    rw [← Nat.pow_add, Nat.add_sub_cancel' short]
  generalize digitsValue (Nat.toDigits 10 (units / 10 ^ 10) ++ limitDecimals units) = digits
    at value ⊢
  have product : digits * 10 ^ 10 = units * 10 ^ (limitDecimals units).length :=
    calc digits * 10 ^ 10 = 10 ^ (10 - (limitDecimals units).length) * digits *
            10 ^ (limitDecimals units).length := by
          rw [← scale]
          ring
      _ = units * 10 ^ (limitDecimals units).length := by rw [value]
  rw [div_eq_div_iff (pow_pos (by norm_num) _).ne' (by norm_num)]
  exact_mod_cast product

/-! ## The numbers of limits -/

/-- A finite double is written as its sign and its units. -/
theorem exists_toPlaces_eq (places : Nat) {value : Float} {number : ℚ}
    (isValue : exactValue? value = some number) :
    ∃ sign units, toPlaces places value = signText sign ++ fixedPoint places units ∧
      signed sign units = unitsOf places value := by
  unfold exactValue? at isValue
  unfold toPlaces numeral unitsOf
  cases kind : value.toModel.unpack with
  | notANumber | infinity =>
      rw [kind] at isValue
      exact nomatch isValue
  | zero sign => exact ⟨sign, 0, rfl, by cases sign <;> simp [signed]⟩
  | finite sign mantissa exponent positive =>
      refine ⟨sign, nearestUnits places mantissa exponent, rfl, ?_⟩
      cases sign <;> simp [signed]

/-- A sign stays in front of a quotient. -/
theorem signed_quotient (sign : UnpackedFloat.Sign) (number scale : ℚ) :
    signed sign (number / scale) = signed sign number / scale := by
  cases sign with
  | positive => rfl
  | negative => exact (neg_div scale number).symm

/-- Zero is denoted with either sign. -/
theorem denotes_zero (sign : UnpackedFloat.Sign) : Denotes (signText sign ++ ['0']) 0 := by
  have denotes := @denotes_positional ['0'] [] sign (by decide) rfl rfl
  have zero : digitsValue (['0'] ++ []) = 0 := by decide
  rw [zero, Nat.cast_zero, zero_div] at denotes
  cases sign with
  | positive => exact denotes
  | negative =>
      rw [signed, neg_zero] at denotes
      exact denotes

/-- **The text of a finite limit** denotes its units. -/
theorem denotes_limitText {value : Float} {number : ℚ}
    (isValue : exactValue? value = some number) :
    Denotes (limitText value).toList (unitsOf 10 value / 10 ^ 10) := by
  obtain ⟨sign, units, written, total⟩ := exists_toPlaces_eq 10 isValue
  have denotes := denotes_positional sign Nat.toDigits_ne_nil
    (all_isDigit_toDigits (units / 10 ^ 10)) (all_isDigit_limitDecimals units)
  rw [digitsValue_limitDecimals, signed_quotient, total] at denotes
  rw [limitText, String.toList_ofList, limitDigits, written, dropTrailing_fixedPoint]
  split
  · rename_i empty
    rw [empty] at denotes
    exact nomatch denotes.1
  · rename_i zero
    rw [zero] at denotes
    rw [denotes.unique (denotes_zero .negative)]
    exact denotes_zero .positive
  · exact denotes

/-- A limit that is not finite is written by name. -/
theorem limitText_mem_of_eq_none {value : Float} (infinite : exactValue? value = none) :
    limitText value ∈ ["NaN", "inf", "-inf"] := by
  unfold exactValue? at infinite
  unfold limitText limitDigits toPlaces numeral
  cases kind : value.toModel.unpack with
  | notANumber => decide
  | infinity sign => cases sign <;> decide
  | zero | finite =>
      rw [kind] at infinite
      exact nomatch infinite

/-- The names of limits that are not finite are no numerals. -/
theorem not_isPlain_of_mem :
    ∀ text ∈ ["NaN", "inf", "-inf"], isPlain text.toList = false := by
  decide

/-- The text of a limit is a numeral or a name. -/
theorem isPlain_or_mem_limitText (value : Float) :
    isPlain (limitText value).toList = true ∨ limitText value ∈ ["NaN", "inf", "-inf"] := by
  cases isValue : exactValue? value with
  | none => exact .inr (limitText_mem_of_eq_none isValue)
  | some number => exact .inl (denotes_limitText isValue).1

/-- **What the text of a limit denotes**: its units, when it is finite, and nothing otherwise. -/
theorem denotes_limitText_iff {value : Float} {number : ℚ} :
    Denotes (limitText value).toList number ↔
      (exactValue? value).isSome = true ∧ number = unitsOf 10 value / 10 ^ 10 := by
  cases isValue : exactValue? value with
  | none =>
      have unreadable := not_isPlain_of_mem _ (limitText_mem_of_eq_none isValue)
      refine iff_of_false ?_ fun finite => Bool.false_ne_true finite.1
      rintro ⟨plain, _⟩
      rw [unreadable] at plain
      exact nomatch plain
  | some _ =>
      have denotes := denotes_limitText isValue
      constructor
      · exact fun other => ⟨rfl, other.unique denotes⟩
      · rintro ⟨_, rfl⟩
        exact denotes

/-! ## The order of limits -/

/-- Units are the same when the numbers are that they stand for. -/
theorem units_eq_of_quotient_eq {units further : Int}
    (same : (units : ℚ) / 10 ^ 10 = further / 10 ^ 10) : units = further :=
  Int.cast_injective ((div_left_inj' (by norm_num)).mp same)

/-- Two texts are numerals, and the second denotes the greater number. -/
def Ascending (lower upper : String) : Prop :=
  ∃ low high, Denotes lower.toList low ∧ Denotes upper.toList high ∧ low < high

section Order

variable {lower upper : Float} {low high : ℚ}

/-- The numbers that finite limits are rounded to are in the order of the limits. -/
theorem denoted_le_of_le (isLow : exactValue? lower = some low)
    (isHigh : exactValue? upper = some high) (order : low ≤ high) :
    (unitsOf 10 lower : ℚ) / 10 ^ 10 ≤ unitsOf 10 upper / 10 ^ 10 := by
  have scale : (0 : ℚ) < 10 ^ 10 := by norm_num
  have units := (isNearest_unitsOf 10 isLow).mono (isNearest_unitsOf 10 isHigh)
    ((mul_le_mul_iff_left₀ scale).mpr order)
  exact (div_le_div_iff_of_pos_right scale).mpr (Int.cast_le.mpr units)

/-- The texts of finite limits do not turn their order around. -/
theorem not_ascending_of_lt (isLow : exactValue? lower = some low)
    (isHigh : exactValue? upper = some high) (order : low < high) :
    ¬ Ascending (limitText upper) (limitText lower) := by
  rintro ⟨number, other, denotes, denotesOther, less⟩
  obtain ⟨_, rfl⟩ := denotes_limitText_iff.mp denotes
  obtain ⟨_, rfl⟩ := denotes_limitText_iff.mp denotesOther
  exact less.not_ge (denoted_le_of_le isLow isHigh order.le)

/-- **Limits in order are written in order** exactly when both are finite and they are not
rounded to the same number. -/
theorem ascending_limitText_iff (order : ¬ upper ≤ lower) :
    Ascending (limitText lower) (limitText upper) ↔
      ∃ low high, exactValue? lower = some low ∧ exactValue? upper = some high ∧
        ∃ units further, IsNearest (low * 10 ^ 10) units ∧ IsNearest (high * 10 ^ 10) further ∧
          units ≠ further := by
  constructor
  · rintro ⟨number, other, denotes, denotesOther, less⟩
    obtain ⟨finite, rfl⟩ := denotes_limitText_iff.mp denotes
    obtain ⟨finiteOther, rfl⟩ := denotes_limitText_iff.mp denotesOther
    obtain ⟨low, isLow⟩ := Option.isSome_iff_exists.mp finite
    obtain ⟨high, isHigh⟩ := Option.isSome_iff_exists.mp finiteOther
    refine ⟨low, high, isLow, isHigh, _, _, isNearest_unitsOf 10 isLow,
      isNearest_unitsOf 10 isHigh, ?_⟩
    intro same
    rw [same] at less
    exact lt_irrefl _ less
  · rintro ⟨low, high, isLow, isHigh, units, further, nearest, nearestOther, apart⟩
    obtain rfl := nearest.unique (isNearest_unitsOf 10 isLow)
    obtain rfl := nearestOther.unique (isNearest_unitsOf 10 isHigh)
    have ordered := denoted_le_of_le isLow isHigh ((not_le_iff isLow isHigh).mp order).le
    refine ⟨_, _, denotes_limitText isLow, denotes_limitText isHigh, lt_of_le_of_ne ordered ?_⟩
    exact fun same => apart (units_eq_of_quotient_eq same)

/-- Limits that are more than a unit apart are written in order. -/
theorem ascending_of_apart (isLow : exactValue? lower = some low)
    (isHigh : exactValue? upper = some high) (apart : low + 1 / 10 ^ 10 < high) :
    Ascending (limitText lower) (limitText upper) := by
  have scale : (0 : ℚ) < 10 ^ 10 := by norm_num
  have unitApart : low * 10 ^ 10 + 1 < high * 10 ^ 10 := by
    have scaled := (mul_lt_mul_iff_left₀ scale).mpr apart
    rw [add_mul, one_div_mul_cancel scale.ne'] at scaled
    exact scaled
  have nearest := isNearest_unitsOf 10 isLow
  have nearestOther := isNearest_unitsOf 10 isHigh
  have unitPos : (0 : ℚ) < 1 / 10 ^ 10 := one_div_pos.mpr scale
  have order : ¬ upper ≤ lower := (not_le_iff isLow isHigh).mpr (by linarith)
  exact (ascending_limitText_iff order).mpr ⟨low, high, isLow, isHigh, _, _, nearest, nearestOther,
    (nearest.lt_of_add_one_lt nearestOther unitApart).ne⟩

end Order

end MainsCharts
