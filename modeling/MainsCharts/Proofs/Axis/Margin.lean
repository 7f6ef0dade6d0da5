import MainsCharts.Proofs.Numeral.Ordering
import MainsCharts.Proofs.Axis.Plan

/-!
# Margins of the axis

The margin of two finite bounds is not negative (`exists_axisMargin`), though it may be infinite
when their distance is.  Added to the greater bound it leads to no lesser number, and
taken from the lesser bound to no greater one, since neither result is rounded across the
double that the bound is.  So a plan that is made from bounds never leaves an empty range
(`emptyRange?_fromBounds`).
-/

namespace MainsCharts.AxisPlan

set_option autoImplicit false

open Numeral Float.Model

variable {value margin : Float} {number : ℚ} {size : WithBotTop ℚ}

/-! ## Margins -/

/-- **The margin** is not negative. -/
theorem exists_axisMargin {least greatest : Float} {low high : ℚ}
    (isLeast : exactValue? least = some low) (isGreatest : exactValue? greatest = some high)
    (ordered : low ≤ high) :
    ∃ size, extendedValue? (axisMargin least greatest) = some size ∧
      ((0 : ℚ) : WithBotTop ℚ) ≤ size := by
  obtain ⟨distance, isDistance, nonneg⟩ :=
    (stores_sub isGreatest isLeast).exists_nonneg (sub_nonneg.mpr ordered)
  exact exists_hundredth isDistance nonneg

/-- Adding a margin leads to no lesser value. -/
theorem exists_add (isValue : exactValue? value = some number)
    (isMargin : extendedValue? margin = some size) (nonneg : ((0 : ℚ) : WithBotTop ℚ) ≤ size) :
    ∃ sum, extendedValue? (value + margin) = some sum ∧ (number : WithBotTop ℚ) ≤ sum := by
  rcases kind_of_nonneg isMargin nonneg with infinite | ⟨other, isOther, otherNonneg⟩
  · have sum : value + margin = .ofModel (Float.Model.pack
      (UnpackedFloat.add Format.binary64 value.toModel.unpack margin.toModel.unpack)) := rfl
    refine ⟨⊤, ?_, le_top⟩
    rw [sum, infinite]
    rcases finite_cases isValue with ⟨_, kind, _⟩ | ⟨_, _, _, _, kind, _⟩
    · rw [kind]
      exact extendedValue?_pack_infinity .positive
    · rw [kind]
      exact extendedValue?_pack_infinity .positive
  · exact (stores_add isValue isOther).exists_ge isValue (le_add_of_nonneg_right otherNonneg)

/-- Taking a margin away leads to no greater value. -/
theorem exists_sub (isValue : exactValue? value = some number)
    (isMargin : extendedValue? margin = some size) (nonneg : ((0 : ℚ) : WithBotTop ℚ) ≤ size) :
    ∃ difference, extendedValue? (value - margin) = some difference ∧
      difference ≤ (number : WithBotTop ℚ) := by
  rcases kind_of_nonneg isMargin nonneg with infinite | ⟨other, isOther, otherNonneg⟩
  · have difference : value - margin = .ofModel (Float.Model.pack
      (UnpackedFloat.sub Format.binary64 value.toModel.unpack margin.toModel.unpack)) := rfl
    refine ⟨⊥, ?_, bot_le⟩
    rw [difference, infinite]
    rcases finite_cases isValue with ⟨_, kind, _⟩ | ⟨_, _, _, _, kind, _⟩
    · rw [kind]
      exact extendedValue?_pack_infinity .negative
    · rw [kind]
      exact extendedValue?_pack_infinity .negative
  · exact (stores_sub isValue isOther).exists_le isValue (sub_le_self number otherNonneg)

end MainsCharts.AxisPlan

namespace MainsCharts

set_option autoImplicit false

open Numeral

/-! ## Bounds -/

/-- Whether bounds are numbers, the least below the greatest. -/
structure ValueBounds.IsProper (bounds : ValueBounds) : Prop where
  finite_least : ∀ least, bounds.least = some least → ∃ number, exactValue? least = some number
  finite_greatest : ∀ greatest, bounds.greatest = some greatest →
    ∃ number, exactValue? greatest = some number
  ordered : ∀ least greatest, bounds.least = some least → bounds.greatest = some greatest →
    least < greatest

namespace ValueBounds

theorem isProper_unknown : unknown.IsProper :=
  ⟨nofun, nofun, nofun⟩

/-- A number that a report gives is finite. -/
theorem exists_of_lastLabelled? {label : String} {lines : List (List Char)} {value : Float}
    (found : lastLabelled? label lines = some value) :
    ∃ number, exactValue? value = some number := by
  obtain ⟨line, _, labels⟩ := List.exists_of_findSome?_eq_some found
  obtain ⟨rest, _, readable⟩ := Option.bind_eq_some_iff.mp labels
  obtain ⟨literal, _, finite⟩ := Option.bind_eq_some_iff.mp readable
  split at finite
  · rename_i isFinite
    obtain rfl := Option.some.inj finite
    exact isFinite_iff.mp isFinite
  · exact nomatch finite

/-- The bounds that lines give are finite, and the least is below the greatest. -/
theorem isProper_of_ofLines {lines : List (List Char)} {bounds : ValueBounds}
    (read : ofLines lines = .ok bounds) : bounds.IsProper := by
  have found : bounds = ⟨lastLabelled? leastLabel lines, lastLabelled? greatestLabel lines⟩ ∧
      ∀ least greatest, bounds.least = some least → bounds.greatest = some greatest →
        ¬ greatest ≤ least := by
    unfold ofLines at read
    dsimp only at read
    split at read
    · rename_i least greatest isLeast isGreatest
      split at read
      · exact nomatch read
      · rename_i ordered
        obtain rfl := Except.ok.inj read
        refine ⟨rfl, ?_⟩
        intro low high isLow isHigh
        obtain rfl := Option.some.inj (isLeast.symm.trans isLow)
        obtain rfl := Option.some.inj (isGreatest.symm.trans isHigh)
        exact ordered
    · rename_i missing
      obtain rfl := Except.ok.inj read
      exact ⟨rfl, fun low high isLow isHigh => absurd isHigh (missing low high isLow)⟩
  obtain ⟨rfl, apart⟩ := found
  refine ⟨fun _ => exists_of_lastLabelled?, fun _ => exists_of_lastLabelled?, ?_⟩
  intro least greatest isLeast isGreatest
  obtain ⟨low, isLow⟩ := exists_of_lastLabelled? isLeast
  obtain ⟨high, isHigh⟩ := exists_of_lastLabelled? isGreatest
  exact (lt_iff isLow isHigh).mpr ((not_le_iff isLow isHigh).mp (apart _ _ isLeast isGreatest))

theorem ofReport_of_error {report : List UInt8} {failure : Failure}
    (read : reportLines report = .error failure) : ofReport report = .error failure := by
  rw [ofReport, read]
  rfl

theorem ofReport_of_ok {report : List UInt8} {lines : List (List Char)}
    (read : reportLines report = .ok lines) :
    ofReport report = (ofLines lines).mapError .detection := by
  rw [ofReport, read]
  rfl

/-- **The bounds of a report** are finite, and the least is below the greatest. -/
theorem isProper_of_ofReport {report : List UInt8} {bounds : ValueBounds}
    (read : ofReport report = .ok bounds) : bounds.IsProper := by
  cases found : reportLines report with
  | error failure => exact nomatch (ofReport_of_error found).symm.trans read
  | ok lines =>
      rw [ofReport_of_ok found] at read
      cases given : ofLines lines with
      | error fault =>
          rw [given] at read
          exact nomatch read
      | ok other =>
          rw [given] at read
          obtain rfl := Except.ok.inj read
          exact isProper_of_ofLines given

end ValueBounds

namespace AxisPlan

variable {bounds : ValueBounds} {floor : Option Float}

/-- **A margin on both sides** leads outwards, perhaps as far as the ends of the order. -/
theorem exists_widened {base greatest : Float} {low high : ℚ} (isBase : exactValue? base = some low)
    (isGreatest : exactValue? greatest = some high) (ordered : low ≤ high) :
    ∃ lower upper, extendedValue? (base - axisMargin base greatest) = some lower ∧
      lower ≤ (low : WithBotTop ℚ) ∧
      extendedValue? (greatest + axisMargin base greatest) = some upper ∧
      (high : WithBotTop ℚ) ≤ upper := by
  obtain ⟨size, isMargin, nonneg⟩ := exists_axisMargin isBase isGreatest ordered
  obtain ⟨upper, isUpper, above⟩ := exists_add isGreatest isMargin nonneg
  obtain ⟨lower, isLower, below⟩ := exists_sub isBase isMargin nonneg
  exact ⟨lower, upper, isLower, below, isUpper, above⟩

/-- A base that lies below the greatest value still does when both are moved apart. -/
theorem not_le_of_lt {base greatest : Float} {low high : ℚ} (isBase : exactValue? base = some low)
    (isGreatest : exactValue? greatest = some high) (ordered : base < greatest) :
    ¬ greatest + axisMargin base greatest ≤ base ∧
      ¬ greatest + axisMargin base greatest ≤ base - axisMargin base greatest := by
  have apart : low < high := (lt_iff isBase isGreatest).mp ordered
  obtain ⟨lower, upper, isLower, below, isUpper, above⟩ := exists_widened isBase isGreatest apart.le
  have stillApart : ¬ upper ≤ (low : WithBotTop ℚ) := fun crossed =>
    absurd (WithBotTop.coe_le_coe.mp (above.trans crossed)) apart.not_ge
  constructor
  · rw [le_iff_extended isUpper (extendedValue?_of_exact isBase)]
    exact stillApart
  · rw [le_iff_extended isUpper isLower]
    exact fun crossed => stillApart (crossed.trans below)

/-- The base of a plan is finite when the bounds and the floor are. -/
theorem exists_exactValue?_base (proper : bounds.IsProper)
    (finite : ∀ base, floor = some base → ∃ number, exactValue? base = some number) {base : Float}
    (isBase : floor.or bounds.least = some base) : ∃ number, exactValue? base = some number := by
  rcases Option.or_eq_some_iff.mp isBase with given | ⟨_, given⟩
  · exact finite base given
  · exact proper.finite_least base given

/-- **A plan from bounds** leaves something to draw. -/
theorem emptyRange?_fromBounds (proper : bounds.IsProper)
    (finite : ∀ base, floor = some base → ∃ number, exactValue? base = some number) :
    (fromBounds bounds floor).emptyRange? = none := by
  unfold fromBounds
  split
  · rename_i base greatest isBase isGreatest
    split
    · rename_i ordered
      obtain ⟨high, isHigh⟩ := proper.finite_greatest greatest isGreatest
      obtain ⟨low, isLow⟩ := exists_exactValue?_base proper finite isBase
      obtain ⟨above, apart⟩ := not_le_of_lt isLow isHigh ordered
      cases floor.isSome with
      | true => exact if_neg above
      | false => exact if_neg apart
    · rfl
  · rfl
  · rfl

end AxisPlan

end MainsCharts
