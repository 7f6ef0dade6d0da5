import Mathlib.Data.List.Basic
import MainsCharts.Proofs.Chart.Scope

/-!
# The stretches of an overlay

The stretches of an overlay follow one another without gap or overlap.  Their offsets
are computed in signed numbers of sixty-four bits, from a width that is taken back from
the span of the whole; none of these operations wraps, because every value on the way
is at most that span (`stretchLength_eq`, `offset_eq`, `offset_add_eq`).

So stretch `i` reaches from `i + 1` widths before the end of the window to `i` widths
before it, and is moved forward by `i` widths, onto stretch zero.  With a clock that
takes a time specification followed by a number of seconds as that much earlier, every
moment of the span of the overlay lies in exactly one stretch (`declare_tiled`).
-/

namespace MainsCharts

set_option autoImplicit false

open Numeral

/-- Whether a moment lies in a span, with the start and without the end, as a clock reads
the two. -/
def FetchSpan.Covers (span : FetchSpan) (clock : String → Int) (moment : Int) : Prop :=
  clock span.start ≤ moment ∧ moment < clock span.stop

/-- An element that reads no series, and moves none but trends of stretches. -/
def Element.Computed : Element → Prop
  | .stored _ _ _ _ _ => False
  | .shift name _ => ∃ stretch, name = Overlay.trendName stretch
  | _ => True

namespace Overlay

open Drawing

/-! ## Arithmetic of sixty-four bits -/

section Arithmetic

variable {width depth : Nat}

/-- The width that is taken back from the span is the one that the span was made of. -/
theorem stretchLength_eq (wide : 0 < width) (deep : 0 < depth)
    (fits : width * depth ≤ greatestSigned) :
    stretchLength (width * depth) depth = Int64.ofNat width := by
  have shallow : depth ≤ width * depth := Nat.le_mul_of_pos_left depth wide
  rw [greatestSigned] at fits
  rw [stretchLength, ← Int64.ofNat_div (by omega) (by omega), Nat.mul_div_cancel width deep]

/-- A number that is at most the greatest signed one is itself as a signed number. -/
theorem toInt_ofNat_of_le {value : Nat} (fits : value ≤ greatestSigned) :
    (Int64.ofNat value).toInt = value := by
  rw [greatestSigned] at fits
  exact Int64.toInt_ofNat_of_lt (by omega)

variable {stretch : Nat} (fits : width * depth ≤ greatestSigned) (bounded : stretch < depth)

include fits bounded

/-- A stretch starts within the span of the overlay. -/
theorem succ_mul_le_greatestSigned : (stretch + 1) * width ≤ greatestSigned := by
  rw [Nat.mul_comm] at fits
  exact Nat.le_trans (Nat.mul_le_mul_right width bounded) fits

/-- The offset of a stretch does not wrap. -/
theorem offset_eq : (offset (Int64.ofNat width) stretch).toInt = (stretch * width : Nat) := by
  have within := succ_mul_le_greatestSigned fits bounded
  rw [Nat.succ_mul] at within
  rw [offset, ← Int64.ofNat_mul]
  exact toInt_ofNat_of_le (by omega)

/-- The start of a stretch does not wrap. -/
theorem offset_add_eq :
    (offset (Int64.ofNat width) stretch + Int64.ofNat width).toInt =
      ((stretch + 1) * width : Nat) := by
  rw [offset, ← Int64.ofNat_mul, ← Int64.ofNat_add, ← Nat.succ_mul]
  exact toInt_ofNat_of_le (succ_mul_le_greatestSigned fits bounded)

end Arithmetic

/-! ## The elements of a stretch -/

/-- The time span of a stretch, in plain numbers of seconds. -/
def plainSpan (stop : String) (width stretch : Nat) : FetchSpan where
  start := Window.earlier stop ((stretch + 1) * width)
  stop := Window.earlier stop (stretch * width)

/-- The stored series of a stretch, each with the span that it is read over, and then how far
each of them is moved. -/
def plainSlice (path source stop : String) (width stretch : Nat) : List Element :=
  kinds.map
      (fun (kind, consolidation) =>
        .stored (rawName stretch kind) path source consolidation
          (some (plainSpan stop width stretch))) ++
    kinds.map fun (kind, _) => .shift (rawName stretch kind) (stretch * width : Nat)

theorem slice_eq {width depth stretch : Nat} (path source stop : String)
    (fits : width * depth ≤ greatestSigned) (bounded : stretch < depth) :
    slice path source stop (Int64.ofNat width) stretch =
      plainSlice path source stop width stretch := by
  have span : spanOf stop (Int64.ofNat width) stretch = plainSpan stop width stretch := by
    rw [spanOf, plainSpan, earlierBy, earlierBy, offset_eq fits bounded, offset_add_eq fits bounded]
    rfl
  rw [slice, plainSlice, span, offset_eq fits bounded]

theorem slices_eq {width depth : Nat} (path source stop : String) (wide : 0 < width)
    (deep : 0 < depth) (fits : width * depth ≤ greatestSigned) :
    slices path source stop (width * depth) depth =
      (List.range depth).flatMap (plainSlice path source stop width) := by
  rw [slices, stretchLength_eq wide deep fits]
  refine List.flatMap_congr ?_
  intro stretch member
  exact slice_eq path source stop fits (List.mem_range.mp member)

/-! ## The elements behind the stretches -/

section Computed

attribute [local simp] Element.Computed Drawing.percentile Drawing.clipped Drawing.reduction
  Drawing.comparison Drawing.absence Drawing.boundaries Element.trend

variable (context : ChartContext) (variant : Variant) {depth : Nat} (folds : Folds depth)

/-- What an overlay declares behind its stretches. -/
def computedOf (width : Nat) : List Element :=
  extremesOf context variant folds ++
    (List.range depth).flatMap (stretchTrend variant context.trendWindow) ++
    averagesOf folds ++ markedOf variant folds width ++ drawnOf context variant depth

theorem computed_drawnOf : ∀ element ∈ drawnOf context variant depth, element.Computed := by
  intro element member
  have drawn := isDrawn_drawnOf context variant element member
  cases element with
  | stored | shift => exact nomatch drawn
  | _ => trivial

theorem computed_computedOf (width : Nat) :
    ∀ element ∈ computedOf context variant folds width, element.Computed := by
  have extremes : ∀ element ∈ extremesOf context variant folds, element.Computed := by
    cases below : variant.clipsBelow <;> simp [extremesOf, whenever, below]
  have averages : ∀ element ∈ averagesOf folds, element.Computed := by
    simp [averagesOf]
  have marked : ∀ element ∈ markedOf variant folds width, element.Computed := by
    cases below : variant.clipsBelow <;> simp [markedOf, whenever, below]
  have trends : ∀ element ∈ (List.range depth).flatMap (stretchTrend variant context.trendWindow),
      element.Computed := by
    intro element member
    obtain ⟨stretch, _, inTrend⟩ := List.mem_flatMap.mp member
    have computed : ∀ element ∈ stretchTrend variant context.trendWindow stretch,
        element.Computed := by
      simp [stretchTrend]
    exact computed element inTrend
  simp only [computedOf, List.forall_mem_append]
  exact ⟨⟨⟨⟨extremes, trends⟩, averages⟩, marked⟩, computed_drawnOf context variant⟩

end Computed

/-- A stored series is not named like a trend. -/
theorem rawName_ne_trendName (stretch other : Nat) (kind : String) :
    rawName stretch kind ≠ trendName other := by
  intro same
  have texts := congrArg String.toList same
  simp [rawName, trendName, stretchName] at texts

variable {context : ChartContext} {variant : Variant}

/-- **The elements of an overlay** are those of its stretches, and behind them elements that
read nothing. -/
theorem elements_eq {depth : Nat} (folds : Folds depth) (stop : String) {width total : Nat}
    (span : overlaySpan width depth = .ok total) :
    (drawingOf context variant folds stop width).elements =
      (List.range depth).flatMap (plainSlice context.path variant.source stop width) ++
        computedOf context variant folds width := by
  obtain ⟨wide, deep, fits, _⟩ := overlaySpan_eq_ok_iff.mp span
  simp only [drawingOf, seriesOf, computedOf, List.append_assoc, slices_eq _ _ stop wide deep fits]

/-! ## The time that the stretches cover -/

/-- Every number of seconds up to the span lies behind the end of exactly one stretch. -/
theorem existsUnique_stretch {width : Nat} (wide : 0 < width) (depth age : Nat) :
    (0 < age ∧ age ≤ width * depth) ↔
      ∃! stretch, stretch < depth ∧ stretch * width < age ∧ age ≤ (stretch + 1) * width := by
  -- The stretch is the number of whole widths that fit before the second counted last.
  have isQuotient (stretch : Nat) (positive : 0 < age) :
      (stretch * width < age ∧ age ≤ (stretch + 1) * width) ↔ (age - 1) / width = stretch := by
    rw [Nat.div_eq_iff wide, Nat.succ_mul]
    omega
  constructor
  · rintro ⟨positive, within⟩
    refine ⟨(age - 1) / width, ⟨?_, (isQuotient _ positive).mpr rfl⟩, ?_⟩
    · rw [Nat.div_lt_iff_lt_mul wide, Nat.mul_comm]
      omega
    · rintro stretch ⟨_, holds⟩
      exact ((isQuotient stretch positive).mp holds).symm
  · rintro ⟨stretch, ⟨bounded, after, before⟩, _⟩
    have within : (stretch + 1) * width ≤ depth * width := Nat.mul_le_mul_right width bounded
    rw [Nat.mul_comm width]
    omega

/-- The span of an overlay and its stretches, as a clock reads them. -/
theorem covers_iff {stop : String} {width depth : Nat} (wide : 0 < width) {clock : String → Int}
    (reads : ∀ seconds, clock (Window.earlier stop seconds) = clock stop - seconds) (moment : Int) :
    (clock stop - (width * depth : Nat) ≤ moment ∧ moment < clock stop) ↔
      ∃! stretch, stretch < depth ∧ (plainSpan stop width stretch).Covers clock moment := by
  have covered (stretch : Nat) : (plainSpan stop width stretch).Covers clock moment ↔
      stretch * width < (clock stop - moment).toNat ∧
        (clock stop - moment).toNat ≤ (stretch + 1) * width := by
    rw [FetchSpan.Covers, plainSpan, reads, reads]
    omega
  have unique := existsUnique_stretch wide depth (clock stop - moment).toNat
  simp only [covered]
  rw [← unique]
  omega

/-! ## The whole overlay -/

/-- That no operation on the offsets of an overlay wraps: each gives the number of seconds
that it would give without a bound. -/
structure Unwrapped (width depth : Nat) : Prop where
  length : (stretchLength (width * depth) depth).toInt = width
  stop : ∀ stretch < depth,
    (offset (stretchLength (width * depth) depth) stretch).toInt = (stretch * width : Nat)
  start : ∀ stretch < depth,
    (offset (stretchLength (width * depth) depth) stretch +
      stretchLength (width * depth) depth).toInt = ((stretch + 1) * width : Nat)

theorem unwrapped {width depth : Nat} (wide : 0 < width) (deep : 0 < depth)
    (fits : width * depth ≤ greatestSigned) : Unwrapped width depth where
  length := by
    rw [stretchLength_eq wide deep fits]
    exact toInt_ofNat_of_le (Nat.le_trans (Nat.le_mul_of_pos_right width deep) fits)
  stop stretch bounded := by
    rw [stretchLength_eq wide deep fits]
    exact offset_eq fits bounded
  start stretch bounded := by
    rw [stretchLength_eq wide deep fits]
    exact offset_add_eq fits bounded

/-- That a clock takes a specification followed by a number of seconds as that much earlier. -/
def CountsBack (clock : String → Int) (moment : String) : Prop :=
  ∀ seconds : Nat, clock (Window.earlier moment seconds) = clock moment - seconds

/-- That the elements of an overlay tile the time before its end with its stretches. -/
structure Tiles (context : ChartContext) (source stop : String) (width depth : Nat)
    (elements : List Element) : Prop where
  /-- Each stretch is read and moved once, and nothing else is read. -/
  declared : ∃ rest,
    elements = (List.range depth).flatMap (plainSlice context.path source stop width) ++ rest ∧
    (∀ name path source consolidation span,
      Element.stored name path source consolidation span ∉ rest) ∧
    ∀ stretch kind seconds, Element.shift (rawName stretch kind) seconds ∉ rest
  /-- A stretch ends where the more recent one before it starts. -/
  adjacent : ∀ stretch,
    (plainSpan stop width (stretch + 1)).stop = (plainSpan stop width stretch).start
  /-- The span of the overlay is covered, each moment of it once. -/
  covered : ∀ clock, CountsBack clock stop → ∀ moment,
    (clock stop - (width * depth : Nat) ≤ moment ∧ moment < clock stop) ↔
      ∃! stretch, stretch < depth ∧ (plainSpan stop width stretch).Covers clock moment
  /-- Each stretch is moved onto the most recent one. -/
  aligned : ∀ clock, CountsBack clock stop → ∀ stretch moment,
    (plainSpan stop width stretch).Covers clock moment ↔
      (plainSpan stop width 0).Covers clock (moment + (stretch * width : Nat))
  /-- The most recent stretch is the one that is shown. -/
  shown : context.window.timeFlags = ["--start", (plainSpan stop width 0).start, "--end", stop]

end Overlay

namespace Chart

open Overlay

/-- The elements of an overlay that is declared start with those of its stretches. -/
theorem exists_elements_eq {chart : Chart} (overlay : chart.isOverlay = true)
    {context : ChartContext} {stop : String} {width depth : Nat}
    (window : context.window = .overlay stop width depth) {drawing : Drawing}
    (declared : chart.declare context = .ok drawing) :
    ∃ rest, drawing.elements =
      (List.range depth).flatMap (plainSlice context.path chart.source stop width) ++ rest := by
  have ofVariant {variant : Variant} (sources : variant.source = chart.source)
      (overlaid : Overlay.declare variant context = .ok drawing) :
      ∃ rest, drawing.elements =
        (List.range depth).flatMap (plainSlice context.path chart.source stop width) ++ rest := by
    obtain ⟨_, _, _, _, folds, same, span, rfl⟩ := of_declare_eq_ok overlaid
    rw [window] at same
    obtain ⟨rfl, rfl, rfl⟩ := Window.overlay.inj same
    exact ⟨_, sources ▸ elements_eq folds stop span⟩
  cases chart with
  | normal | diff | spread => exact nomatch overlay
  | overlap | overlapDiff => exact ofVariant rfl declared

/-- **The stretches of an overlay tile the time before its end.**  The span of an overlay can
be computed exactly when it is positive and fits a signed number; then the overlay is declared,
no offset in it wraps, and its elements tile the span. -/
theorem declare_tiled {chart : Chart} (overlay : chart.isOverlay = true) {context : ChartContext}
    {stop : String} {width depth : Nat} (window : context.window = .overlay stop width depth) :
    (∀ total, overlaySpan width depth = .ok total ↔
      0 < width ∧ 0 < depth ∧ width * depth ≤ greatestSigned ∧ total = width * depth) ∧
    ∀ total, overlaySpan width depth = .ok total →
      Unwrapped width depth ∧
      ∃ drawing, chart.declare context = .ok drawing ∧
        Tiles context chart.source stop width depth drawing.elements := by
  refine ⟨fun _ => overlaySpan_eq_ok_iff, ?_⟩
  intro total span
  obtain ⟨wide, deep, fits, _⟩ := overlaySpan_eq_ok_iff.mp span
  obtain ⟨folds⟩ := exists_folds deep
  have tiles {variant : Variant} (sources : variant.source = chart.source) :
      Tiles context chart.source stop width depth
        (drawingOf context variant folds stop width).elements := by
    have computed := computed_computedOf context variant folds width
    refine ⟨⟨_, sources ▸ elements_eq folds stop span, ?_, ?_⟩, fun _ => rfl, ?_, ?_, ?_⟩
    · intro name path source consolidation span member
      exact computed _ member
    · intro stretch kind seconds member
      obtain ⟨other, same⟩ := computed _ member
      exact rawName_ne_trendName stretch other kind same
    · intro clock reads moment
      exact covers_iff wide reads moment
    · intro clock reads stretch moment
      rw [FetchSpan.Covers, FetchSpan.Covers, plainSpan, plainSpan, reads, reads, reads, reads,
        Nat.succ_mul]
      omega
    · rw [window, plainSpan, Window.timeFlags, Nat.zero_add, Nat.one_mul]
  refine ⟨unwrapped wide deep fits, ?_⟩
  cases chart with
  | normal | diff | spread => exact nomatch overlay
  | overlap | overlapDiff => exact ⟨_, declare_of_span folds window span, tiles rfl⟩

/-- A clock that stands at zero now, for specifications of three letters and what is taken
from them. -/
def nowClock (moment : String) : Int :=
  -(Nat.ofDigitChars 10 (moment.toList.drop 4) 0 : Nat)

theorem countsBack_nowClock : CountsBack nowClock "now" := by
  intro seconds
  have now : nowClock "now" = 0 := by decide
  have digits : (Window.earlier "now" seconds).toList.drop 4 = Nat.toDigits 10 seconds := by
    simp [Window.earlier, Nat.toList_repr]
  rw [now, nowClock, digits, Nat.ofDigitChars_toDigits (by decide) (by decide)]
  omega

/-- The last second of the older one of two stretches of an hour. -/
theorem declare_tiled_twoHours :
    overlap.isOverlay = true ∧ overlaySpan 3600 2 = .ok 7200 ∧
      ∃! stretch, stretch < 2 ∧ (plainSpan "now" 3600 stretch).Covers nowClock (-3601) := by
  obtain ⟨_, tiled⟩ := @declare_tiled overlap rfl twoHours "now" 3600 2 rfl
  obtain ⟨_, drawing, _, tiles⟩ := tiled 7200 rfl
  exact ⟨rfl, rfl, (tiles.covered nowClock countsBack_nowClock (-3601)).mp (by decide)⟩

end Chart

end MainsCharts
