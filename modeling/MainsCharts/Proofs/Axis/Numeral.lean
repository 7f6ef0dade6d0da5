import MainsCharts.Proofs.Axis.Limit
import MainsCharts.Proofs.Numeral.Digits

/-!
# The numerals of limits

A finite limit is written as its number of units of `10 ^ -10`, and the text depends on nothing else
(`limitDigits_eq`).  So two limits are written alike exactly when they are rounded to the same
number, and zeros of either sign and all numbers close enough to zero are written as zero.

The text is a numeral of which nothing can be left out (`IsConcise`).  Against the numeral with all
of its ten places it only lacks zeros at the end, the point when no decimal is left, and the sign of
zero (`Shortens`).
-/

namespace MainsCharts

set_option autoImplicit false

open Numeral Float.Model

/-! ## Concise numerals -/

/-- That nothing can be left out of a numeral with a sign, a whole part and decimals: the whole part
starts with no zero unless it is one, the decimals end with none, and zero has no sign. -/
structure IsConcise (sign : UnpackedFloat.Sign) (whole decimals : List Char) : Prop where
  isDigits_whole : IsDigits whole
  unpadded : whole.head? = some '0' → whole = ['0']
  isDigit_decimals : ∀ digit ∈ decimals, digit.isDigit = true
  length_le : decimals.length ≤ 10
  reduced : decimals.getLast? ≠ some '0'
  unsigned_zero : whole = ['0'] → decimals = [] → sign = .positive

namespace IsConcise

variable {sign : UnpackedFloat.Sign} {whole decimals : List Char}

/-- A concise numeral is not empty, and it does not end in a point. -/
theorem exists_getLast? (isConcise : IsConcise sign whole decimals) :
    ∃ digit, (signText sign ++ (whole ++ pointed decimals)).getLast? = some digit ∧
      digit.isDigit = true := by
  have ending {digits : List Char} (isDigits : IsDigits digits) (front : List Char) :
      ∃ digit, (front ++ digits).getLast? = some digit ∧ digit.isDigit = true := by
    obtain ⟨digit, last⟩ := Option.isSome_iff_exists.mp (List.getLast?_isSome.mpr isDigits.1)
    refine ⟨digit, ?_, isDigits.2 digit (List.mem_of_getLast? last)⟩
    rw [List.getLast?_append_of_ne_nil _ isDigits.1, last]
  cases split : decimals with
  | nil =>
      rw [show pointed [] = [] from rfl, List.append_nil]
      exact ending isConcise.isDigits_whole _
  | cons first rest =>
      have isDigits : IsDigits (first :: rest) :=
        ⟨List.cons_ne_nil first rest, split ▸ isConcise.isDigit_decimals⟩
      rw [show pointed (first :: rest) = ['.'] ++ (first :: rest) from rfl, ← List.append_assoc,
        ← List.append_assoc]
      exact ending isDigits _

/-- A concise numeral is not a zero with a minus. -/
theorem ne_negative_zero (isConcise : IsConcise sign whole decimals) :
    signText sign ++ (whole ++ pointed decimals) ≠ ['-', '0'] := by
  intro same
  obtain ⟨first, rest, rfl⟩ := List.exists_cons_of_ne_nil isConcise.isDigits_whole.1
  cases sign with
  | positive =>
      obtain ⟨rfl, -⟩ := List.cons.inj same
      exact nomatch isConcise.isDigits_whole.2 '-' List.mem_cons_self
  | negative =>
      obtain ⟨rfl, behind⟩ := List.cons.inj (List.cons.inj same).2
      obtain ⟨rfl, unpointed⟩ := List.append_eq_nil_iff.mp behind
      have whole : decimals = [] := by
        cases decimals with
        | nil => rfl
        | cons => exact nomatch unpointed
      exact nomatch isConcise.unsigned_zero rfl whole

end IsConcise

/-- That a numeral with all of ten places only has more in it than a concise one: zeros behind the
decimals, the point when there are no decimals, and a minus when the number is zero. -/
def Shortens (text long : List Char) : Prop :=
  ∃ sign written whole decimals, IsConcise sign whole decimals ∧
    text = signText sign ++ (whole ++ pointed decimals) ∧
    long = signText written ++
      (whole ++ '.' :: (decimals ++ List.replicate (10 - decimals.length) '0')) ∧
    (written = sign ∨ text = ['0'])

/-! ## The text of units -/

/-- The sign of a number of units. -/
def unitsSign (units : Int) : UnpackedFloat.Sign :=
  if units < 0 then .negative else .positive

/-- The digits of a number of units of `10 ^ -10` in front of the point. -/
def unitsWhole (units : Int) : List Char :=
  Nat.toDigits 10 (units.natAbs / 10 ^ 10)

/-- A number of units of `10 ^ -10`, written without what can be left out. -/
def unitsText (units : Int) : List Char :=
  signText (unitsSign units) ++ (unitsWhole units ++ pointed (limitDecimals units.natAbs))

/-- **The text of units** is concise. -/
theorem isConcise_units (units : Int) :
    IsConcise (unitsSign units) (unitsWhole units) (limitDecimals units.natAbs) := by
  constructor
  case isDigits_whole =>
    exact ⟨Nat.toDigits_ne_nil, List.all_eq_true.mp (all_isDigit_toDigits _)⟩
  case unpadded =>
    intro zero
    rcases Nat.eq_zero_or_pos (units.natAbs / 10 ^ 10) with nothing | positive
    · rw [unitsWhole, nothing]
      rfl
    · exact absurd zero (head?_toDigits_ne_zero positive)
  case isDigit_decimals => exact List.all_eq_true.mp (all_isDigit_limitDecimals _)
  case length_le => exact (paddedDigits_eq_limitDecimals_append _).1
  case reduced => exact getLast?_dropTrailing '0' _
  case unsigned_zero =>
    intro wholeZero noDecimals
    have value := digitsValue_limitDecimals units.natAbs
    rw [← unitsWhole, wholeZero, noDecimals] at value
    have nothing : (0 : ℚ) = units.natAbs / 10 ^ 10 := by
      rw [← value, show digitsValue (['0'] ++ []) = 0 by decide, Nat.cast_zero, zero_div]
    have zero : units.natAbs = 0 := by
      have numerator := (div_eq_zero_iff.mp nothing.symm).resolve_right (by norm_num)
      exact Nat.cast_eq_zero.mp numerator
    rw [Int.natAbs_eq_zero.mp zero]
    rfl

/-! ## The text of a limit -/

section Limit

variable {value other : Float} {number further : ℚ}

/-- A finite double is written as its units, and with their sign unless they are none. -/
theorem exists_toPlaces_eq_units (isValue : exactValue? value = some number) :
    ∃ written, toPlaces 10 value = signText written ++ fixedPoint 10 (unitsOf 10 value).natAbs ∧
      (written = unitsSign (unitsOf 10 value) ∨ unitsOf 10 value = 0) := by
  obtain ⟨written, units, text, total⟩ := exists_toPlaces_eq 10 isValue
  refine ⟨written, ?_⟩
  rw [text]
  cases written with
  | positive =>
      rw [signed] at total
      have same : (units : Int) = unitsOf 10 value := by exact_mod_cast total
      rw [← same, Int.natAbs_natCast]
      exact ⟨rfl, .inl (if_neg (by omega)).symm⟩
  | negative =>
      rw [signed] at total
      have same : -(units : Int) = unitsOf 10 value := by exact_mod_cast total
      rw [← same, Int.natAbs_neg, Int.natAbs_natCast]
      refine ⟨rfl, ?_⟩
      rcases Nat.eq_zero_or_pos units with rfl | positive
      · exact .inr rfl
      · exact .inl (if_pos (by omega)).symm

/-- **A finite limit is written** as its units. -/
theorem limitDigits_eq (isValue : exactValue? value = some number) :
    limitDigits value = unitsText (unitsOf 10 value) := by
  obtain ⟨written, text, sign⟩ := exists_toPlaces_eq_units isValue
  rw [limitDigits, text, dropTrailing_fixedPoint]
  rcases sign with rfl | zero
  · have concise := isConcise_units (unitsOf 10 value)
    rw [← unitsWhole, ← unitsText]
    split
    · rename_i empty
      obtain ⟨digit, last, _⟩ := concise.exists_getLast?
      rw [← unitsText, empty] at last
      exact absurd last.symm (Option.some_ne_none digit)
    · rename_i negative
      exact absurd negative concise.ne_negative_zero
    · rfl
  -- Without units the double may still have a minus, which is what is dropped with its zero.
  · rw [zero]
    cases written <;> decide

/-- The text of a limit shortens the one with ten places. -/
theorem shortens_limitText (isValue : exactValue? value = some number) :
    Shortens (limitText value).toList (toPlaces 10 value) := by
  obtain ⟨written, text, sign⟩ := exists_toPlaces_eq_units isValue
  rw [limitText, String.toList_ofList, limitDigits_eq isValue]
  refine ⟨_, written, _, _, isConcise_units (unitsOf 10 value), rfl, ?_, ?_⟩
  · rw [text, fixedPoint, if_neg (by decide), (paddedDigits_eq_limitDecimals_append _).2,
      unitsWhole]
  · refine sign.imp_right fun zero => ?_
    rw [zero]
    decide

/-- **The numeral with ten places** denotes the units of a double. -/
theorem denotes_toPlaces (isValue : exactValue? value = some number) :
    Denotes (toPlaces 10 value) (unitsOf 10 value / 10 ^ 10) := by
  obtain ⟨sign, units, text, total⟩ := exists_toPlaces_eq 10 isValue
  have long : (paddedDigits 10 (units % 10 ^ 10)).length = 10 :=
    length_paddedDigits (by decide) (Nat.mod_lt _ (by decide))
  have nonempty : (paddedDigits 10 (units % 10 ^ 10)).isEmpty = false := by
    rw [List.isEmpty_eq_false_iff_exists_mem]
    exact List.exists_mem_of_length_pos (by omega)
  have denotes := denotes_positional sign Nat.toDigits_ne_nil
    (all_isDigit_toDigits (units / 10 ^ 10)) (all_isDigit_paddedDigits 10 (units % 10 ^ 10))
  rw [digitsValue_units (by decide), long, signed_quotient, total, pointed, nonempty] at denotes
  rw [text, fixedPoint]
  exact denotes

/-- Only zero is nearest to the numbers that are at most half a unit away from it. -/
theorem unitsOf_eq_zero_iff (isValue : exactValue? value = some number) :
    unitsOf 10 value = 0 ↔ |number| ≤ 1 / 2 / 10 ^ 10 := by
  have scale : (0 : ℚ) < 10 ^ 10 := by norm_num
  have nearest := isNearest_unitsOf 10 isValue
  have distance : |number| ≤ 1 / 2 / 10 ^ 10 ↔ |number * 10 ^ 10 - (0 : Int)| ≤ 1 / 2 := by
    rw [Int.cast_zero, sub_zero, abs_mul, abs_of_pos scale, le_div_iff₀ scale]
  rw [distance]
  constructor
  · intro none
    exact none ▸ nearest.near
  · intro near
    exact nearest.unique ⟨near, fun _ => rfl⟩

/-- A number is at most half a unit away from what its double is rounded to. -/
theorem abs_units_sub_le (isValue : exactValue? value = some number) :
    |(unitsOf 10 value : ℚ) / 10 ^ 10 - number| ≤ 1 / 2 / 10 ^ 10 := by
  have scale : (0 : ℚ) < 10 ^ 10 := by norm_num
  have near := (isNearest_unitsOf 10 isValue).near
  rw [abs_sub_comm, le_div_iff₀ scale, ← abs_of_pos scale, ← abs_mul, abs_of_pos scale, sub_mul,
    div_mul_cancel₀ _ scale.ne']
  exact near

/-- Limits are written alike when they are rounded to the same number, and only then. -/
theorem limitText_eq_iff (isValue : exactValue? value = some number)
    (isOther : exactValue? other = some further) :
    limitText value = limitText other ↔ unitsOf 10 value = unitsOf 10 other := by
  constructor
  · intro same
    have denotes := denotes_limitText isValue
    rw [same] at denotes
    exact units_eq_of_quotient_eq (denotes.unique (denotes_limitText isOther))
  · intro same
    rw [limitText, limitText, limitDigits_eq isValue, limitDigits_eq isOther, same]

/-- **Limits are written as concise numerals** with at most ten decimals, which keep their order.
The text denotes what the numeral with ten places denotes, a number that is at most half a unit
away.  It is `0` for every number that is this close to zero, and other texts are alike exactly when
the same number is denoted. -/
theorem limitText_concise (isValue : exactValue? value = some number)
    (isOther : exactValue? other = some further) :
    Shortens (limitText value).toList (toPlaces 10 value) ∧
      (∃ digit, (limitText value).toList.getLast? = some digit ∧ digit.isDigit = true) ∧
      limitText value ≠ "-0" ∧
      (∃ units : Int, Denotes (limitText value).toList (units / 10 ^ 10) ∧
        Denotes (toPlaces 10 value) (units / 10 ^ 10) ∧
        |(units : ℚ) / 10 ^ 10 - number| ≤ 1 / 2 / 10 ^ 10) ∧
      (limitText value = "0" ↔ |number| ≤ 1 / 2 / 10 ^ 10) ∧
      (limitText value = limitText other ↔
        ∃ rounded, Denotes (toPlaces 10 value) rounded ∧ Denotes (toPlaces 10 other) rounded) ∧
      (value ≤ other → ∃ low high, Denotes (limitText value).toList low ∧
        Denotes (limitText other).toList high ∧ low ≤ high) := by
  have short := shortens_limitText isValue
  have denotes := denotes_toPlaces isValue
  have denotesOther := denotes_toPlaces isOther
  refine ⟨short, ?_, ?_, ⟨_, denotes_limitText isValue, denotes, abs_units_sub_le isValue⟩, ?_, ?_,
    ?_⟩
  · obtain ⟨_, _, _, _, concise, text, _⟩ := short
    rw [text]
    exact concise.exists_getLast?
  · intro negative
    obtain ⟨_, _, _, _, concise, text, _⟩ := short
    rw [negative] at text
    exact concise.ne_negative_zero text.symm
  · have zero : exactValue? 0 = some 0 := rfl
    rw [← unitsOf_eq_zero_iff isValue]
    exact limitText_eq_iff isValue zero
  · rw [limitText_eq_iff isValue isOther]
    constructor
    · intro same
      exact ⟨_, denotes, same ▸ denotesOther⟩
    · rintro ⟨rounded, first, second⟩
      obtain rfl := first.unique denotes
      exact units_eq_of_quotient_eq (second.unique denotesOther)
  · intro order
    exact ⟨_, _, denotes_limitText isValue, denotes_limitText isOther,
      denoted_le_of_le isValue isOther ((le_iff isValue isOther).mp order)⟩

end Limit

/-- A tiny negative number is written as zero, and before the numeral of a hundred, whose zeros are
not dropped. -/
theorem limitText_concise_tiny :
    limitText (-1e-12) = "0" ∧ limitText 100.0 = "100" ∧
      ∃ low high, Denotes ['0'] low ∧ Denotes ['1', '0', '0'] high ∧ low ≤ high := by
  have isTiny : exactValue? (-1e-12) =
      some (signed .negative (magnitude 4951760157141521 (-92))) := rfl
  have isHundred : exactValue? 100.0 =
      some (signed .positive (magnitude 7036874417766400 (-46))) := rfl
  have near : |signed .negative (magnitude 4951760157141521 (-92))| ≤ 1 / 2 / 10 ^ 10 := by
    rw [signed, abs_neg, magnitude]
    norm_num
  obtain ⟨_, _, _, _, zero, _, ordered⟩ := limitText_concise isTiny isHundred
  have written := zero.mpr near
  have hundred : limitText 100.0 = "100" := rfl
  have numerals := ordered (by decide)
  rw [written, hundred] at numerals
  exact ⟨written, hundred, numerals⟩

end MainsCharts
