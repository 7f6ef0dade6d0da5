import MainsCharts.Proofs.Chart.Names
import MainsCharts.Proofs.Chart.Slices

/-!
# Declaring a chart

A chart that suits its context is declared without a fault and passes the check for
repeated names (`Chart.declare_faultless`).  Two kinds of faults are possible.  A number of
sixty-four bits may not hold a result: a trend window of two to the power of sixty-three
cannot be negated, and the offsets of an overlay must not wrap.  And a color may be looked
up that a gradient does not have.
-/

namespace MainsCharts

set_option autoImplicit false

open Numeral

/-- The one signed number that cannot be negated is the least. -/
theorem toInt_neg_ofNat {value : Nat} (word : value ≤ greatestWord)
    (notLeast : value ≠ greatestSigned + 1) :
    (-Int64.ofNat value).toInt = -asSigned value := by
  have signed : (Int64.ofNat value).toInt = asSigned value := Int64.toInt_ofNat'
  have notLeastSigned : asSigned value ≠ -2 ^ 63 := by
    rw [asSigned, Int.bmod]
    rw [greatestWord] at word ⊢
    rw [greatestSigned] at notLeast
    split <;> omega
  have bounds := Int64.le_toInt (Int64.ofNat value)
  have above := Int64.toInt_lt (Int64.ofNat value)
  rw [signed] at bounds above
  rw [Int64.toInt_neg, signed]
  exact Int.bmod_eq_of_le (by omega) (by omega)

namespace Overlay

/-- The lines of the stretches, with each color looked up. -/
def lookedUpLines? (colors : List Color) (depth : Nat) (line : Nat → Color → Element) :
    Option (List Element) :=
  (List.range depth).reverse.mapM fun stretch => (colors[stretch]?).map (line stretch)

/-- There is a color for each stretch, and looking it up finds the one that is drawn with. -/
theorem lookedUpLines?_length (colors : List Color) (line : Nat → Color → Element) :
    lookedUpLines? colors colors.length line = some (stretchLines colors line) := by
  have found (entries : List (Color × Nat)) (within : ∀ entry ∈ entries, entry ∈ colors.zipIdx) :
      (entries.map Prod.snd).mapM (fun stretch => (colors[stretch]?).map (line stretch)) =
        some (entries.map fun entry => line entry.2 entry.1) := by
    induction entries with
    | nil => rfl
    | cons entry entries ih =>
        have here := List.mem_zipIdx_iff_getElem?.mp (within entry List.mem_cons_self)
        have rest := ih fun other member => within other (List.mem_cons_of_mem entry member)
        rw [List.map_cons, List.mapM_cons, here, rest]
        rfl
  have positions : (List.range colors.length).reverse = colors.zipIdx.reverse.map Prod.snd := by
    rw [List.map_reverse, List.zipIdx_map_snd, List.range_eq_range']
  rw [lookedUpLines?, positions]
  exact found colors.zipIdx.reverse fun entry member => List.mem_reverse.mp member

end Overlay

namespace Chart

open Overlay

/-- That a chart is declared without a fault of arithmetic or of a look-up. -/
structure Faultless (chart : Chart) (context : ChartContext) : Prop where
  /-- The trend window can be negated. -/
  negated : (-Int64.ofNat context.trendWindow).toInt = -asSigned context.trendWindow
  /-- No offset of an overlay wraps. -/
  unwrapped : chart.isOverlay = true → ∀ stop width depth,
    context.window = .overlay stop width depth → Unwrapped width depth
  /-- The gradients of an overlay have a color for each stretch. -/
  lookedUp : chart.isOverlay = true → ∀ stop width depth,
    context.window = .overlay stop width depth → ∀ oldest recent line,
      lookedUpLines? (Color.gradient oldest recent depth) depth line =
        some (stretchLines (Color.gradient oldest recent depth) line)

variable {chart : Chart} {context : ChartContext}

/-- **A chart is declared without a fault, and no name twice.** -/
theorem declare_faultless (suits : chart.Suits context)
    (word : context.trendWindow ≤ greatestWord)
    (notLeast : context.trendWindow ≠ greatestSigned + 1) :
    chart.Faultless context ∧
    ∃ drawing, chart.declare context = .ok drawing ∧
      checkNames drawing.arguments = .ok () ∧
      (drawing.arguments.filterMap declaredName?).Nodup := by
  have faultless : chart.Faultless context := by
    refine ⟨toInt_neg_ofNat word notLeast, ?_, ?_⟩
    · intro overlay stop width depth window
      obtain ⟨_, _, _, total, same, span⟩ := suits overlay
      rw [window] at same
      obtain ⟨rfl, rfl, rfl⟩ := Window.overlay.inj same
      obtain ⟨wide, deep, fits, _⟩ := overlaySpan_eq_ok_iff.mp span
      exact Overlay.unwrapped wide deep fits
    · intro overlay stop width depth window oldest recent line
      have length := Color.length_gradient oldest recent depth
      have found := lookedUpLines?_length (Color.gradient oldest recent depth) line
      rwa [length] at found
  obtain ⟨drawing, declared⟩ := exists_declare_iff.mpr suits
  refine ⟨faultless, drawing, declared, checkNames_declare declared, ?_⟩
  rw [filterMap_declaredName?_arguments declared]
  exact nodup_declaredNames declared

/-- The overlay of two hours of a database whose path looks like a declaration itself. -/
theorem declare_faultless_twoHours :
    overlap.Suits { twoHours with path := "/CDEF:r_min=1" } ∧
    twoHours.trendWindow ≤ greatestWord ∧ twoHours.trendWindow ≠ greatestSigned + 1 ∧
    ∃ drawing, overlap.declare { twoHours with path := "/CDEF:r_min=1" } = .ok drawing ∧
      checkNames drawing.arguments = .ok () ∧
      (drawing.arguments.filterMap declaredName?).Nodup := by
  have suits : overlap.Suits { twoHours with path := "/CDEF:r_min=1" } :=
    fun _ => ⟨"now", 3600, 2, 7200, rfl, rfl⟩
  exact ⟨suits, by decide, by decide, (declare_faultless suits (by decide) (by decide)).2⟩

end Chart

end MainsCharts
