import MainsCharts.Proofs.Numeral.Whole
import MainsCharts.Proofs.TrendWindow.Language

/-!
# How trend windows grow

The window of a trend grows with the period that is shown, and with the percentage of it that is
asked for (`resolve_grows`).

The seconds of a percentage come out of four steps: the period becomes a double, it is multiplied by
the share and divided by a hundred, and what is left is brought into a word.  Each of them rounds to
what is nearest, or down, and so keeps the order; none is exact for long periods.  The product may
leave the finite doubles, at the end above them, and stays there.  Only the infinite share of no
period at all is no number, and such a share is not read from any text.
-/

namespace MainsCharts.TrendWindow

set_option autoImplicit false

open Float.Model Numeral

variable {share greater : Float} {part further : ℚ} {period longer : Nat}

/-- The seconds of a percentage before they are brought into a word. -/
def portion (share : Float) (period : Nat) : Float :=
  Float.ofNat period * share / 100.0

theorem resolve_percent (share : Float) (period : Nat) :
    (percent share).resolve period = floorToWord (portion share period) :=
  rfl

/-! ## Finite shares -/

/-- **The portions of finite shares** are in the order of the shares and of the periods. -/
theorem exists_portion_le (isShare : exactValue? share = some part)
    (isGreater : exactValue? greater = some further) (nonneg : 0 ≤ part) (ordered : part ≤ further)
    (shorter : period ≤ longer) (fits : longer ≤ greatestWord) :
    ∃ size other, extendedValue? (portion share period) = some size ∧
      extendedValue? (portion greater longer) = some other ∧ size ≤ other := by
  obtain ⟨number, isNumber, numberNonneg, _⟩ := exists_exactValue?_ofNat (shorter.trans fits)
  obtain ⟨next, isNext, _⟩ := exists_exactValue?_ofNat fits
  have numbers := exactValue?_ofNat_mono isNumber isNext shorter
  have products : number * part ≤ next * further :=
    mul_le_mul numbers ordered nonneg (numberNonneg.trans numbers)
  have stores := stores_mul isNumber isShare
  obtain ⟨size, other, isSize, isOther, sizes⟩ :=
    stores.exists_le_of_le (stores_mul isNext isGreater) products
  obtain ⟨same, isSame, sizeNonneg⟩ := stores.exists_nonneg (mul_nonneg numberNonneg nonneg)
  obtain rfl := Option.some.inj (isSize.symm.trans isSame)
  exact exists_hundredth_le isSize isOther sizeNonneg sizes

theorem resolve_le_of_exactValue? (isShare : exactValue? share = some part)
    (isGreater : exactValue? greater = some further) (nonneg : 0 ≤ part) (ordered : part ≤ further)
    (shorter : period ≤ longer) (fits : longer ≤ greatestWord) :
    (percent share).resolve period ≤ (percent greater).resolve longer := by
  obtain ⟨size, other, isSize, isOther, sizes⟩ :=
    exists_portion_le isShare isGreater nonneg ordered shorter fits
  exact floorToWord_mono isSize isOther sizes

/-! ## The ends -/

/-- Of no period at all nothing is left, also where the product is no number. -/
theorem resolve_zero (share : Float) : (percent share).resolve 0 = 0 := by
  have product : Float.ofNat 0 * share = .ofModel (Float.Model.pack
    (UnpackedFloat.mul Format.binary64 (Float.ofNat 0).toModel.unpack share.toModel.unpack)) := rfl
  have nothing : (Float.ofNat 0).toModel.unpack = .zero .positive := rfl
  rw [resolve_percent, portion, product, nothing]
  cases share.toModel.unpack with
  | notANumber => rfl
  | infinity sign | zero sign => cases sign <;> rfl
  | finite sign mantissa exponent positive =>
      have vanishes : UnpackedFloat.mul Format.binary64 (.zero .positive)
        (.finite sign mantissa exponent positive) = .zero (.positive * sign) := rfl
      rw [vanishes]
      cases sign <;> rfl

/-- Of every other period, the infinite share is the greatest window. -/
theorem resolve_of_infinity (infinite : share.toModel.unpack = .infinity .positive)
    (positive : 0 < period) (fits : period ≤ greatestWord) :
    (percent share).resolve period = greatestWord := by
  obtain ⟨number, isNumber, _, least⟩ := exists_exactValue?_ofNat fits
  have product := mul_infinity isNumber (one_pos.trans_le (least positive)) infinite
  have quotient := hundredth_of_infinity (unpack_of_top product)
  exact saturate_of_infinity_positive (unpack_of_top quotient)

/-! ## Windows -/

/-- **Windows grow with the percentage**, up to the infinite one. -/
theorem resolve_le_of_share_le (nonneg : 0.0 ≤ share) (ordered : share ≤ greater)
    (fits : period ≤ greatestWord) :
    (percent share).resolve period ≤ (percent greater).resolve period := by
  obtain ⟨size, other, isSize, isOther, sizes⟩ := exists_of_le ordered
  have sizeNonneg : ((0 : ℚ) : WithBotTop ℚ) ≤ size :=
    (le_iff_extended (extendedValue?_of_exact exactValue?_zero) isSize).mp nonneg
  rcases Nat.eq_zero_or_pos period with rfl | positive
  · rw [resolve_zero, resolve_zero]
  · rcases kind_of_nonneg isOther (sizeNonneg.trans sizes) with infinite | ⟨further, isGreater, _⟩
    · exact (saturate_le _).trans_eq (resolve_of_infinity infinite positive fits).symm
    · rw [extendedValue?_of_exact isGreater] at isOther
      obtain rfl := Option.some.inj isOther
      rcases extended_cases isSize with ⟨_ | _, _, rfl⟩ | ⟨part, isShare, rfl⟩
      · exact absurd sizeNonneg (by simp [ending])
      · exact absurd sizes (by simp [ending])
      · exact resolve_le_of_exactValue? isShare isGreater (WithBotTop.coe_le_coe.mp sizeNonneg)
          (WithBotTop.coe_le_coe.mp sizes) le_rfl fits

/-- **Windows grow with the period.** -/
theorem resolve_le_of_period_le {window : TrendWindow} {text : List Char}
    (isWritten : IsWritten text window) (shorter : period ≤ longer) (fits : longer ≤ greatestWord) :
    window.resolve period ≤ window.resolve longer := by
  cases isWritten with
  | auto => exact Nat.div_le_div_right shorter
  | percent _ _ isShare nonneg =>
      exact resolve_le_of_exactValue? isShare isShare nonneg le_rfl shorter fits
  | seconds => exact le_rfl

/-- A percentage that is written is a share that is finite and not negative. -/
theorem IsWritten.exists_exactValue? {text : List Char}
    (isWritten : IsWritten text (.percent share)) :
    ∃ part, exactValue? share = some part ∧ 0 ≤ part := by
  cases isWritten with
  | percent _ _ isShare nonneg => exact ⟨_, isShare, nonneg⟩

/-- **Windows that are read from texts** grow with the period, and every window that is a percentage
grows with it.  The portion that a window is rounded from is a number, so the window is zero only
when it is below one. -/
theorem resolve_grows :
    (∀ text window, read text = .ok window →
      ∀ period longer, period ≤ longer → longer ≤ greatestWord →
        window.resolve period ≤ window.resolve longer) ∧
    (∀ period share greater, period ≤ greatestWord → 0.0 ≤ share → share ≤ greater →
      (percent share).resolve period ≤ (percent greater).resolve period) ∧
    ∀ text share, read text = .ok (.percent share) → ∀ period, period ≤ greatestWord →
      (portion share period).isNaN = false ∧
        ((percent share).resolve period = 0 ↔ portion share period < 1.0) := by
  refine ⟨?_, ?_, ?_⟩
  · intro text window isRead period longer shorter fits
    exact resolve_le_of_period_le (read_eq_ok_iff.mp isRead) shorter fits
  · intro period share greater fits nonneg ordered
    exact resolve_le_of_share_le nonneg ordered fits
  · intro text share isRead period fits
    obtain ⟨part, isShare, nonneg⟩ := (read_eq_ok_iff.mp isRead).exists_exactValue?
    obtain ⟨size, _, isSize, _⟩ :=
      exists_portion_le isShare isShare nonneg le_rfl le_rfl fits
    refine ⟨isNaN_eq_false isSize, ?_⟩
    rw [resolve_percent, floorToWord_eq_zero_iff isSize,
      lt_iff_extended isSize (extendedValue?_of_exact exactValue?_one)]

/-- A third of two hours, of a day, and of the two seconds that it vanishes for. -/
theorem resolve_grows_third :
    (percent 33.0).resolve 7200 ≤ (percent 33.0).resolve 86400 ∧
      (percent 33.0).resolve 7200 ≤ (percent 50.0).resolve 7200 ∧
      (portion 33.0 2).isNaN = false ∧
      ((percent 33.0).resolve 2 = 0 ↔ portion 33.0 2 < 1.0) := by
  have isRead : read "33%" = .ok (.percent 33.0) := rfl
  obtain ⟨withPeriod, withShare, isNumber⟩ := resolve_grows
  exact ⟨withPeriod "33%" _ isRead 7200 86400 (by decide) (by decide),
    withShare 7200 33.0 50.0 (by decide) (by decide) (by decide),
    isNumber "33%" 33.0 isRead 2 (by decide)⟩

end MainsCharts.TrendWindow
