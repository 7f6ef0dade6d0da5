import MainsCharts.Proofs.Color.Gradient
import MainsCharts.Proofs.Numeral.Precision

/-!
# The course of a gradient

A gradient runs from its second color to its first without leaving the channels between them, and
without turning back (`gradient_runs`).

The two weights of a blend are both rounded and need not add up to one, and the products and their
sum are rounded again.  But a channel is rounded from a number that is close to the exact mix of the
two (`approximates_blended`).  The error is far below the half that a byte is rounded by, so no
channel leaves the two that it is mixed from.  And it is below what the mix changes by from one
position to the next, as long as there are at most `2 ^ 32` of them, so no channel turns back.
-/

namespace MainsCharts.Color

set_option autoImplicit false

open Numeral

variable {share greater : Float} {part further : ℚ} {count position later : Nat}

/-! ## Mixes -/

/-- What a channel of a blend is rounded from, in exact numbers. -/
def mix (first second : UInt8) (part : ℚ) : ℚ :=
  first.toNat * part + second.toNat * (1 - part)

theorem mix_sub_mix (first second : UInt8) (part further : ℚ) :
    mix first second further - mix first second part =
      ((first.toNat : ℚ) - second.toNat) * (further - part) := by
  rw [mix, mix]
  ring

/-- Whether a double is a share of a whole. -/
structure IsShare (share : Float) (part : ℚ) : Prop where
  isValue : exactValue? share = some part
  nonneg : 0 ≤ part
  most : part ≤ 1

namespace IsShare

variable {first second : UInt8}

theorem le_mix (isShare : IsShare share part) {least : Nat} (below : least ≤ first.toNat)
    (belowOther : least ≤ second.toNat) : (least : ℚ) ≤ mix first second part :=
  calc (least : ℚ) = least * part + least * (1 - part) := by ring
    _ ≤ mix first second part :=
      add_le_add (mul_le_mul_of_nonneg_right (Nat.cast_le.mpr below) isShare.nonneg)
        (mul_le_mul_of_nonneg_right (Nat.cast_le.mpr belowOther) (sub_nonneg.mpr isShare.most))

theorem mix_le (isShare : IsShare share part) {greatest : Nat} (above : first.toNat ≤ greatest)
    (aboveOther : second.toNat ≤ greatest) : mix first second part ≤ greatest :=
  calc mix first second part ≤ greatest * part + greatest * (1 - part) :=
      add_le_add (mul_le_mul_of_nonneg_right (Nat.cast_le.mpr above) isShare.nonneg)
        (mul_le_mul_of_nonneg_right (Nat.cast_le.mpr aboveOther) (sub_nonneg.mpr isShare.most))
    _ = greatest := by ring

end IsShare

/-- The double between nothing and the whole. -/
theorem exists_isShare (nonneg : 0.0 ≤ share) (most : share ≤ 1.0) :
    ∃ part, IsShare share part := by
  obtain ⟨size, _, isSize, _, _⟩ := exists_of_le most
  have above := (le_iff_extended (extendedValue?_of_exact exactValue?_zero) isSize).mp nonneg
  have below := (le_iff_extended isSize (extendedValue?_of_exact exactValue?_one)).mp most
  rcases extended_cases isSize with ⟨_ | _, _, rfl⟩ | ⟨part, isPart, rfl⟩
  · exact absurd above (by simp [ending])
  · exact absurd below (by simp [ending])
  · exact ⟨part, isPart, WithBotTop.coe_le_coe.mp above, WithBotTop.coe_le_coe.mp below⟩

/-! ## Channels -/

/-- How far the number that a channel is rounded from is away from the mix, at most. -/
def blendError : ℚ :=
  258 * halfUnit

/-- **A channel of a blend** is rounded from a number that is close to the exact mix. -/
theorem approximates_blended (isShare : IsShare share part) (first second : UInt8) :
    Approximates (mix first second part)
      (first.toFloat * share + second.toFloat * (1.0 - share)) blendError := by
  have bounded (channel : UInt8) : (channel.toNat : ℚ) ≤ 255 := by
    exact_mod_cast Nat.le_of_lt_succ channel.toNat_lt
  have weighted (channel : UInt8) {weight : ℚ} (least : 0 ≤ weight) (greatest : weight ≤ 1) :
      |channel.toNat * weight| ≤ 255 := by
    rw [abs_of_nonneg (mul_nonneg (Nat.cast_nonneg _) least)]
    exact (mul_le_of_le_one_right (Nat.cast_nonneg _) greatest).trans (bounded channel)
  have tiny : halfUnit < 1 / 1000 := by norm_num [halfUnit]
  have limit : smallBound = 512 := rfl
  have missingNonneg : 0 ≤ 1 - part := sub_nonneg.mpr isShare.most
  have missingMost : 1 - part ≤ 1 := sub_le_self 1 isShare.nonneg
  have firstWeighted := weighted first isShare.nonneg isShare.most
  have secondWeighted := weighted second missingNonneg missingMost
  have missing : Approximates (1 - part) (1.0 - share) halfUnit := by
    refine (stores_sub exactValue?_one isShare.isValue).approximates ?_
    rw [abs_of_nonneg missingNonneg]
    linarith
  have carried : |(second.toNat : ℚ)| * halfUnit ≤ 255 * halfUnit := by
    rw [abs_of_nonneg (Nat.cast_nonneg second.toNat)]
    exact mul_le_mul_of_nonneg_right (bounded second) halfUnit_pos.le
  have isFirst : Approximates (first.toNat * part) (first.toFloat * share) halfUnit :=
    (stores_mul (exactValue?_toFloat first) isShare.isValue).approximates (by linarith)
  have isSecond := Approximates.mul (exactValue?_toFloat second) missing (by linarith)
  have sum := abs_add_le (first.toNat * part) (second.toNat * (1 - part))
  refine (isFirst.add isSecond (by linarith)).mono ?_
  rw [blendError]
  linarith

/-- Whether a channel lies between two others. -/
def Between (one other channel : UInt8) : Prop :=
  min one.toNat other.toNat ≤ channel.toNat ∧ channel.toNat ≤ max one.toNat other.toNat

theorem Between.eq {one channel : UInt8} (between : Between one one channel) : channel = one := by
  obtain ⟨above, below⟩ := between
  refine UInt8.toNat.inj ?_
  omega

/-- **No channel of a blend** leaves the two that it is blended from. -/
theorem between_blendChannel (isShare : IsShare share part) (first second : UInt8) :
    Between first second (blendChannel first second share) := by
  obtain ⟨result, isResult, near⟩ := approximates_blended isShare first second
  obtain ⟨above, below⟩ := abs_le.mp near
  have small : blendError < 1 / 2 := by norm_num [blendError, halfUnit]
  have least : ((min first.toNat second.toNat : Nat) : ℚ) ≤ mix first second part :=
    isShare.le_mix (Nat.min_le_left _ _) (Nat.min_le_right _ _)
  have most : mix first second part ≤ (max first.toNat second.toNat : Nat) :=
    isShare.mix_le (Nat.le_max_left _ _) (Nat.le_max_right _ _)
  have firstBounded := first.toNat_lt
  rw [Between, blendChannel, toNat_roundToByte_of_exactValue? isResult]
  constructor
  · refine le_min (by omega) (Nat.le_floor ?_)
    linarith
  · refine min_le_of_right_le (Nat.le_of_lt_succ ((Nat.floor_lt' (Nat.succ_ne_zero _)).mpr ?_))
    push_cast at most ⊢
    linarith

/-- Mixes that are far enough apart are rounded in their order. -/
theorem blendChannel_le_of_mix {first second : UInt8} (isShare : IsShare share part)
    (isGreater : IsShare greater further)
    (apart : mix first second part + 2 * blendError ≤ mix first second further) :
    blendChannel first second share ≤ blendChannel first second greater := by
  obtain ⟨result, isResult, near⟩ := approximates_blended isShare first second
  obtain ⟨next, isNext, nearNext⟩ := approximates_blended isGreater first second
  have ordered : result + 1 / 2 ≤ next + 1 / 2 := by
    have below := (abs_le.mp near).2
    have above := (abs_le.mp nearNext).1
    linarith
  rw [UInt8.le_iff_toNat_le, blendChannel, blendChannel, toNat_roundToByte_of_exactValue? isResult,
    toNat_roundToByte_of_exactValue? isNext]
  exact min_le_min_left _ (Nat.floor_mono ordered)

/-- **Shares that are far enough apart** give channels in the order of the two, from the second to
the first.  Equal ones are left as they are, and others differ by one at least, so that their mixes
are as far apart as the shares. -/
theorem blendChannel_runs (isShare : IsShare share part) (isGreater : IsShare greater further)
    (apart : part + 2 * blendError ≤ further) (first second : UInt8) :
    (second ≤ first → blendChannel first second share ≤ blendChannel first second greater) ∧
      (first ≤ second → blendChannel first second greater ≤ blendChannel first second share) := by
  have grown {lesser higher : UInt8} (less : lesser.toNat < higher.toNat) :
      2 * blendError ≤ ((higher.toNat : ℚ) - lesser.toNat) * (further - part) := by
    have gap : (lesser.toNat : ℚ) + 1 ≤ higher.toNat := by exact_mod_cast less
    have positive : 0 < blendError := mul_pos (by norm_num) halfUnit_pos
    calc 2 * blendError ≤ further - part := by linarith
      _ ≤ ((higher.toNat : ℚ) - lesser.toNat) * (further - part) :=
        le_mul_of_one_le_left (by linarith) (by linarith)
  rw [UInt8.le_iff_toNat_le, UInt8.le_iff_toNat_le]
  rcases Nat.lt_trichotomy first.toNat second.toNat with less | same | less
  · refine ⟨fun ordered => absurd less ordered.not_gt, fun _ => ?_⟩
    refine blendChannel_le_of_mix isGreater isShare ?_
    have moved := mix_sub_mix first second part further
    linarith [grown less]
  · obtain rfl := UInt8.toNat.inj same
    rw [(between_blendChannel isShare first first).eq,
      (between_blendChannel isGreater first first).eq]
    exact ⟨fun _ => UInt8.le_refl first, fun _ => UInt8.le_refl first⟩
  · refine ⟨fun _ => ?_, fun ordered => absurd less ordered.not_gt⟩
    refine blendChannel_le_of_mix isShare isGreater ?_
    have moved := mix_sub_mix first second part further
    linarith [grown less]

/-! ## Positions -/

/-- **The share of a position** in a gradient is a share. -/
theorem exists_isShare_gradientShare (fits : count ≤ greatestWord) (several : 1 < count)
    (bounded : position < count) : ∃ part, IsShare (gradientShare count position) part := by
  obtain ⟨steps, isSteps, positive⟩ := exists_steps several fits
  obtain ⟨number, isNumber, nonneg, _⟩ := exists_exactValue?_ofNat (bounded.le.trans fits)
  have most : number ≤ steps :=
    exactValue?_ofNat_mono isNumber isSteps (Nat.le_sub_one_of_lt bounded)
  have least : 0 ≤ number / steps := div_nonneg nonneg positive.le
  obtain ⟨part, isPart, above, below⟩ := (stores_div isNumber isSteps positive.ne').exists_between
    exactValue?_zero exactValue?_one least ((div_le_one positive).mpr most)
  exact ⟨part, isPart, above, below⟩

/-- Few positions are doubles, and their shares are close to the exact ones. -/
theorem approximates_gradientShare (few : count ≤ 4294967296) (several : 1 < count)
    (bounded : position < count) :
    Approximates ((position : ℚ) / (count - 1 : Nat)) (gradientShare count position) halfUnit := by
  have isSteps : exactValue? (Float.ofNat (count - 1)) = some ((count - 1 : Nat) : ℚ) :=
    exactValue?_of_stores (by rw [leadingBit]; omega) (stores_ofNat _)
  have isPosition : exactValue? (Float.ofNat position) = some (position : ℚ) :=
    exactValue?_of_stores (by rw [leadingBit]; omega) (stores_ofNat _)
  have positive : (0 : ℚ) < (count - 1 : Nat) := Nat.cast_pos.mpr (Nat.sub_pos_of_lt several)
  have most : (position : ℚ) / (count - 1 : Nat) ≤ 1 :=
    (div_le_one positive).mpr (Nat.cast_le.mpr (Nat.le_sub_one_of_lt bounded))
  refine (stores_div isPosition isSteps positive.ne').approximates ?_
  rw [abs_of_nonneg (by positivity), smallBound]
  linarith

/-- **Two positions** have shares that are far enough apart, when there are few of them. -/
theorem shares_apart (few : count ≤ 4294967296) (ordered : position < later)
    (bounded : later < count) (isShare : IsShare (gradientShare count position) part)
    (isLater : IsShare (gradientShare count later) further) :
    part + 2 * blendError ≤ further := by
  have several : 1 < count := by omega
  obtain ⟨same, isSame, near⟩ := approximates_gradientShare few several (ordered.trans bounded)
  obtain ⟨other, isOther, nearOther⟩ := approximates_gradientShare few several bounded
  obtain rfl := Option.some.inj (isShare.isValue.symm.trans isSame)
  obtain rfl := Option.some.inj (isLater.isValue.symm.trans isOther)
  have positive : (0 : ℚ) < (count - 1 : Nat) := Nat.cast_pos.mpr (Nat.sub_pos_of_lt several)
  have apart : (position : ℚ) / (count - 1 : Nat) + 1 / 4294967296 ≤ later / (count - 1 : Nat) := by
    have step : (position : ℚ) + 1 ≤ later := by exact_mod_cast ordered
    have steps : ((count - 1 : Nat) : ℚ) ≤ 4294967296 := by
      exact_mod_cast (Nat.sub_le count 1).trans few
    calc (position : ℚ) / (count - 1 : Nat) + 1 / 4294967296
        ≤ position / (count - 1 : Nat) + 1 / (count - 1 : Nat) :=
          add_le_add_right (one_div_le_one_div_of_le positive steps) _
      _ = (position + 1) / (count - 1 : Nat) := (add_div _ _ _).symm
      _ ≤ later / (count - 1 : Nat) := div_le_div_of_nonneg_right step positive.le
  have errors : 2 * halfUnit + 2 * blendError ≤ 1 / 4294967296 := by
    norm_num [blendError, halfUnit]
  have above := (abs_le.mp near).2
  have below := (abs_le.mp nearOther).1
  linarith

/-! ## Colors -/

/-- The channels of a color. -/
def channels : List (Color → UInt8) :=
  [red, green, blue, alpha]

/-- Whether a color lies between two others, in each channel. -/
def IsBetween (one other color : Color) : Prop :=
  ∀ channel ∈ channels, Between (channel one) (channel other) (channel color)

/-- Whether channels run from one to another without turning back. -/
def Runs (start stop : UInt8) (values : List UInt8) : Prop :=
  (start ≤ stop → values.Pairwise (· ≤ ·)) ∧ (stop ≤ start → values.Pairwise (· ≥ ·))

/-- Colors are blended channel by channel. -/
theorem channel_blend (first second : Color) (share : Float) : ∀ channel ∈ channels,
    channel (blend first second share) = blendChannel (channel first) (channel second) share := by
  simp [channels, blend]

theorem IsBetween.eq {one color : Color} (between : IsBetween one one color) : color = one := by
  have same : ∀ channel ∈ channels, channel color = channel one :=
    fun channel isChannel => (between channel isChannel).eq
  obtain ⟨red, green, blue, alpha⟩ := one
  obtain ⟨_, _, _, _⟩ := color
  simpa [channels] using same

/-- **A blend** lies between the two colors. -/
theorem isBetween_blend (isShare : IsShare share part) (first second : Color) :
    IsBetween first second (blend first second share) := by
  intro channel isChannel
  rw [channel_blend first second share channel isChannel]
  exact between_blendChannel isShare (channel first) (channel second)

theorem isBetween_second (first second : Color) : IsBetween first second second :=
  fun _ _ => ⟨Nat.min_le_right _ _, Nat.le_max_right _ _⟩

/-- **Every color of a gradient** lies between the two. -/
theorem isBetween_of_mem_gradient {first second color : Color} (fits : count ≤ greatestWord)
    (member : color ∈ gradient first second count) : IsBetween first second color := by
  unfold gradient at member
  split at member
  · rw [List.mem_singleton.mp member]
    exact isBetween_second first second
  · obtain ⟨position, isPosition, rfl⟩ := List.mem_map.mp member
    have bounded := List.mem_range.mp isPosition
    obtain ⟨part, isShare⟩ := exists_isShare_gradientShare fits (by omega) bounded
    exact isBetween_blend isShare first second

/-- **The channels of a gradient** run from the second color to the first. -/
theorem runs_gradient (first second : Color) (few : count ≤ 4294967296) (several : 1 < count)
    {channel : Color → UInt8} (isChannel : channel ∈ channels) :
    Runs (channel second) (channel first) ((gradient first second count).map channel) := by
  have fits : count ≤ greatestWord := few.trans (by decide)
  have runs {position later : Nat} (isLater : later ∈ List.range count)
      (ordered : position < later) :
      (channel second ≤ channel first →
        channel (blend first second (gradientShare count position)) ≤
          channel (blend first second (gradientShare count later))) ∧
      (channel first ≤ channel second →
        channel (blend first second (gradientShare count later)) ≤
          channel (blend first second (gradientShare count position))) := by
    have bounded := List.mem_range.mp isLater
    obtain ⟨part, isShare⟩ := exists_isShare_gradientShare fits several (ordered.trans bounded)
    obtain ⟨further, isGreater⟩ := exists_isShare_gradientShare fits several bounded
    rw [channel_blend _ _ _ channel isChannel, channel_blend _ _ _ channel isChannel]
    have apart := shares_apart few ordered bounded isShare isGreater
    exact blendChannel_runs isShare isGreater apart (channel first) (channel second)
  rw [gradient, if_neg several.ne', List.map_map]
  constructor
  · intro upward
    refine List.pairwise_map.mpr (List.pairwise_lt_range.imp_of_mem ?_)
    intro position later _ isLater ordered
    exact (runs isLater ordered).1 upward
  · intro downward
    refine List.pairwise_map.mpr (List.pairwise_lt_range.imp_of_mem ?_)
    intro position later _ isLater ordered
    exact (runs isLater ordered).2 downward

/-- **Gradients run from one color to the other.**  A gradient has the wanted number of colors, it
starts with the second color and, when it has several, ends with the first, and no color in it
leaves the channels of the two; nor does any blend of them.  Unless there are more than `2 ^ 32`
colors, no channel turns back on the way. -/
theorem gradient_runs (first second : Color) :
    (∀ count, (gradient first second count).length = count) ∧
    gradient first second 1 = [second] ∧
    (∀ count, 2 ≤ count → count ≤ greatestWord →
      (gradient first second count).head? = some second ∧
        (gradient first second count).getLast? = some first) ∧
    (∀ count color, count ≤ greatestWord → color ∈ gradient first second count →
      IsBetween first second color) ∧
    (∀ share : Float, 0.0 ≤ share → share ≤ 1.0 →
      IsBetween first second (blend first second share) ∧ blend first first share = first) ∧
    ∀ count channel, 2 ≤ count → count ≤ 4294967296 → channel ∈ channels →
      Runs (channel second) (channel first) ((gradient first second count).map channel) := by
  refine ⟨length_gradient first second, rfl, ?_, fun _ _ => isBetween_of_mem_gradient, ?_, ?_⟩
  · intro count several fits
    rw [List.head?_eq_getElem?, List.getLast?_eq_getElem?, length_gradient]
    exact ⟨getElem?_gradient_zero fits first second (by omega),
      getElem?_gradient_last fits first second several⟩
  · intro share nonneg most
    obtain ⟨part, isShare⟩ := exists_isShare nonneg most
    exact ⟨isBetween_blend isShare first second, (isBetween_blend isShare first first).eq⟩
  · intro count channel several few isChannel
    exact runs_gradient first second few several isChannel

/-- From red to blue in five steps, and the middle of the two. -/
theorem gradient_runs_redToBlue :
    (gradient (opaqueOf 0 0 255) (opaqueOf 255 0 0) 5).head? = some (opaqueOf 255 0 0) ∧
      (∀ color ∈ gradient (opaqueOf 0 0 255) (opaqueOf 255 0 0) 5,
        IsBetween (opaqueOf 0 0 255) (opaqueOf 255 0 0) color) ∧
      IsBetween (opaqueOf 0 0 255) (opaqueOf 255 0 0)
        (blend (opaqueOf 0 0 255) (opaqueOf 255 0 0) 0.5) ∧
      Runs 255 0 ((gradient (opaqueOf 0 0 255) (opaqueOf 255 0 0) 5).map red) := by
  obtain ⟨_, _, ends, colors, blends, runs⟩ := gradient_runs (opaqueOf 0 0 255) (opaqueOf 255 0 0)
  exact ⟨(ends 5 (by decide) (by decide)).1, fun color => colors 5 color (by decide),
    (blends 0.5 (by decide) (by decide)).1, runs 5 red (by decide) (by decide) List.mem_cons_self⟩

end MainsCharts.Color
