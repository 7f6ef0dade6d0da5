import Mathlib.Data.List.Nodup
import Mathlib.Data.List.Perm.Basic
import MainsCharts.Proofs.Chart.Scope

/-!
# The names that a chart declares

No chart declares a name twice (`Chart.checkNames_declare`).  The names of the three charts
of a floating window are fixed.  Those of an overlay fall into two parts: the names of
stretches, which a stage, a number and a kind can be read from
(`stretchName_inj`), and the fixed ones, none of which has the form of a stretch's.
-/

namespace MainsCharts

set_option autoImplicit false

open Text

/-- The names that elements declare, in order. -/
def declaredNames (elements : List Element) : List String :=
  (declarations elements).map Prod.fst

theorem declaredNames_append (first second : List Element) :
    declaredNames (first ++ second) = declaredNames first ++ declaredNames second := by
  rw [declaredNames, declarations_append, List.map_append, declaredNames, declaredNames]

theorem declaredNames_flatMap {Index : Type} (indices : List Index)
    (piece : Index → List Element) :
    declaredNames (indices.flatMap piece) =
      indices.flatMap fun index => declaredNames (piece index) := by
  simp only [declaredNames, declarations_flatMap, List.map_flatMap]

/-- The name that an argument declares belongs to its declaration. -/
theorem declaredName?_eq (argument : String) :
    declaredName? argument = (declaration? argument).map Prod.fst := by
  rw [declaration?]
  cases opened : SeriesKind.ofText? argument.toList with
  | some kind =>
      rw [Option.bind_some, Option.map_map]
      exact Option.map_id'.symm
  | none =>
      have foreign : afterDeclaration? argument.toList = none := by
        simpa [SeriesKind.ofText?, SeriesKind.opening, afterDeclaration?, declarationOpenings]
          using opened
      rw [declaredName?, foreign]
      rfl

/-- Scoped elements declare in writing the names that they declare. -/
theorem filterMap_declaredName? {elements : List Element}
    (inScope : isScoped [] elements = true) :
    (elements.map Element.text).filterMap declaredName? = declaredNames elements := by
  have wellNamed := isWellNamed_of_isScoped inScope
  rw [List.filterMap_map, declaredNames, declarations, List.map_filterMap]
  refine List.filterMap_congr ?_
  intro element member
  rw [Function.comp_apply, declaredName?_eq, Element.declaration?_text (wellNamed element member)]

namespace Overlay

/-! ## Names of stretches -/

/-- Digits are read from a text up to the character behind them. -/
theorem repr_append_inj {first second : Nat} {separator : Char}
    (foreign : separator.isDigit = false) {behind other : List Char}
    (same : (Nat.repr first).toList ++ separator :: behind =
      (Nat.repr second).toList ++ separator :: other) :
    first = second ∧ behind = other := by
  have digits (value : Nat) (rest : List Char) :
      ((Nat.repr value).toList ++ separator :: rest).takeWhile Char.isDigit =
        (Nat.repr value).toList := by
    rw [List.takeWhile_append_of_pos fun _ => Numeral.isDigit_of_mem_repr,
      List.takeWhile_cons_of_neg (by simp [foreign]), List.append_nil]
  have numerals : (Nat.repr first).toList = (Nat.repr second).toList := by
    rw [← digits first behind, same, digits]
  rw [numerals] at same
  refine ⟨?_, (List.cons.inj (List.append_cancel_left same)).2⟩
  have values := congrArg (Nat.ofDigitChars 10 · 0) numerals
  simp only [Nat.toList_repr] at values
  rwa [Nat.ofDigitChars_toDigits (by decide) (by decide),
    Nat.ofDigitChars_toDigits (by decide) (by decide)] at values

/-- The parts of the name of a series of a stretch can be read from it. -/
theorem stretchName_inj {stage other kind further : String} {first second : Nat}
    (lengths : stage.length = other.length)
    (same : stretchName stage first kind = stretchName other second further) :
    stage = other ∧ first = second ∧ kind = further := by
  have texts := congrArg String.toList same
  simp only [stretchName, String.toList_append, List.append_assoc] at texts
  obtain ⟨stages, texts⟩ := List.append_inj texts lengths
  have underscore : '_'.isDigit = false := rfl
  obtain ⟨numbers, kinds⟩ := repr_append_inj underscore (List.append_cancel_left texts)
  exact ⟨String.toList_inj.mp stages, numbers, String.toList_inj.mp kinds⟩

/-- Whether a name has the form of a series of a stretch. -/
def isStretchName (name : String) : Bool :=
  (name.toList.drop 1).take 2 == ['_', 'i']

theorem isStretchName_stretchName {stage kind : String} (single : stage.length = 1)
    (stretch : Nat) : isStretchName (stretchName stage stretch kind) = true := by
  have short : stage.toList.length = 1 := single
  obtain ⟨letter, written⟩ := List.length_eq_one_iff.mp short
  simp [isStretchName, stretchName, written]

/-- The names of some parts for all stretches. -/
def stretchNames (depth : Nat) (parts : List (String × String)) : List String :=
  (List.range depth).flatMap fun stretch =>
    parts.map fun (stage, kind) => stretchName stage stretch kind

/-- Names of one letter, a number and a kind, without repetition among those of one number. -/
theorem nodup_stretchNames {depth : Nat} {parts : List (String × String)}
    (letters : ∀ part ∈ parts, part.1.length = 1) (distinct : parts.Nodup) :
    (stretchNames depth parts).Nodup := by
  have inj {first second : String × String} {stretch other : Nat} (here : first ∈ parts)
      (there : second ∈ parts)
      (same : stretchName first.1 stretch first.2 = stretchName second.1 other second.2) :
      stretch = other ∧ first = second := by
    obtain ⟨stages, numbers, kinds⟩ :=
      stretchName_inj ((letters first here).trans (letters second there).symm) same
    exact ⟨numbers, Prod.ext stages kinds⟩
  refine List.nodup_flatMap.mpr ⟨?_, ?_⟩
  · intro stretch _
    refine List.Nodup.map_on ?_ distinct
    intro first here second there same
    exact (inj here there same).2
  · refine List.nodup_range.imp ?_
    intro stretch other differ name here there
    obtain ⟨first, inFirst, rfl⟩ := List.mem_map.mp here
    obtain ⟨second, inSecond, same⟩ := List.mem_map.mp there
    exact differ (inj inSecond inFirst same).1.symm

/-! ## Names of an overlay -/

variable {context : ChartContext} {variant : Variant} {depth : Nat} (folds : Folds depth)

theorem declaredNames_drawnOf : declaredNames (drawnOf context variant depth) = [] := by
  have silent : ∀ element ∈ drawnOf context variant depth, element.declaration? = none := by
    intro element member
    have drawn := isDrawn_drawnOf context variant element member
    cases element with
    | stored | derived | scalar => exact nomatch drawn
    | _ => rfl
  rw [declaredNames, declarations, List.filterMap_eq_nil_iff.mpr silent, List.map_nil]

/-- The names of the stored series of a stretch, without the stretch. -/
def storedParts : List (String × String) :=
  [("r", "min"), ("r", "max"), ("r", "avg")]

/-- The names of the derived series of a stretch, without the stretch. -/
def derivedParts : List (String × String) :=
  [("f", "avg"), ("t", "avg")]

/-- The names of the extremes of an overlay, and of the scalars that clip its values. -/
def extremeNames (variant : Variant) : List String :=
  ["r_min", "r_max"] ++ (ends variant).map Prod.fst

/-- The names of the averages of an overlay, and of the series that are marked. -/
def averageNames (variant : Variant) : List String :=
  ["r_avg", "f_avg", "t_avg", "g_avg"] ++ (marks variant).map Prod.fst

theorem declaredNames_drawingOf (stop : String) (width : Nat) :
    declaredNames (drawingOf context variant folds stop width).elements =
      stretchNames depth storedParts ++ extremeNames variant ++ stretchNames depth derivedParts ++
        averageNames variant := by
  have stored : declaredNames (slices context.path variant.source stop (width * depth) depth) =
      stretchNames depth storedParts := by
    rw [slices, declaredNames_flatMap]
    rfl
  have extremes : declaredNames (extremesOf context variant folds) = extremeNames variant := by
    rw [declaredNames, declarations_extremesOf, List.map_append]
    rfl
  have derived : declaredNames
      ((List.range depth).flatMap (stretchTrend variant context.trendWindow)) =
      stretchNames depth derivedParts := by
    rw [declaredNames_flatMap]
    rfl
  have averages : declaredNames (averagesOf folds) = ["r_avg", "f_avg", "t_avg", "g_avg"] := rfl
  have marked : declaredNames (markedOf variant folds width) = (marks variant).map Prod.fst := by
    rw [declaredNames, declarations_markedOf]
  simp only [drawingOf, seriesOf, declaredNames_append, stored, extremes, derived, averages, marked,
    declaredNames_drawnOf, List.append_nil, averageNames, List.append_assoc]

theorem nodup_declaredNames (stop : String) (width : Nat) :
    (declaredNames (drawingOf context variant folds stop width).elements).Nodup := by
  have grouped : (declaredNames (drawingOf context variant folds stop width).elements).Perm
      (stretchNames depth (storedParts ++ derivedParts) ++
        (extremeNames variant ++ averageNames variant)) := by
    have together : (stretchNames depth storedParts ++ stretchNames depth derivedParts).Perm
        (stretchNames depth (storedParts ++ derivedParts)) := by
      simp only [stretchNames, List.map_append]
      exact List.flatMap_append_perm _ _ _
    rw [declaredNames_drawingOf]
    refine .trans ?_ (together.append_right _)
    simp only [List.append_assoc]
    exact .append_left _ (List.perm_append_comm_assoc ..)
  have letters : ∀ part ∈ storedParts ++ derivedParts, part.1.length = 1 := by decide
  have stretches : (stretchNames depth (storedParts ++ derivedParts)).Nodup :=
    nodup_stretchNames letters (by decide)
  have fixed : (extremeNames variant ++ averageNames variant).Nodup ∧
      ∀ name ∈ extremeNames variant ++ averageNames variant, isStretchName name = false := by
    cases clips : variant.clipsBelow <;>
      simp +decide [extremeNames, averageNames, ends, marks, clips]
  rw [grouped.nodup_iff]
  refine List.nodup_append.mpr ⟨stretches, fixed.1, ?_⟩
  rintro name inStretch _ isFixed rfl
  obtain ⟨stretch, _, named⟩ := List.mem_flatMap.mp inStretch
  obtain ⟨part, listed, rfl⟩ := List.mem_map.mp named
  have contrary := fixed.2 _ isFixed
  rw [isStretchName_stretchName (letters part listed) stretch] at contrary
  exact Bool.false_ne_true contrary.symm

end Overlay

/-! ## All charts -/

namespace Chart

variable {chart : Chart} {context : ChartContext} {drawing : Drawing}

theorem nodup_declaredNames (declared : chart.declare context = .ok drawing) :
    (declaredNames drawing.elements).Nodup := by
  cases chart with
  | normal =>
      obtain rfl := Except.ok.inj declared
      have names : declaredNames (Frequency.declare context).elements =
          ["r_min", "r_max", "r_avg", "g_min", "g_max", "f_min", "f_max", "f_avg", "t_min", "t_max",
            "t_avg", "g_avg", "g_last", "g_stdev", "e_min", "e_max", "e_miss", "ztick"] := rfl
      rw [names]
      decide
  | diff =>
      obtain rfl := Except.ok.inj declared
      have names : declaredNames (Rate.declare context).elements =
          ["r_min", "r_max", "r_avg", "g_max", "f_min", "f_max", "f_avg", "g_avg", "t_min", "t_max",
            "t_avg", "g_last_min", "g_last_max", "g_last_avg", "e_max", "e_miss", "ztick"] := rfl
      rw [names]
      decide
  | spread =>
      obtain rfl := Except.ok.inj declared
      have names : declaredNames (Spread.declare context).elements =
          ["r_min", "r_max", "g_min", "g_max", "f_min", "f_max", "r_diff", "g_diff_min",
            "g_diff_max", "t_diff", "g_last", "e_avg_min", "e_avg_max", "e_miss", "ztick"] := rfl
      rw [names]
      decide
  | overlap | overlapDiff =>
      obtain ⟨stop, width, depth, total, folds, _, _, rfl⟩ := Overlay.of_declare_eq_ok declared
      exact Overlay.nodup_declaredNames folds stop width

/-- The arguments of a chart declare in writing the names that its elements declare. -/
theorem filterMap_declaredName?_arguments (declared : chart.declare context = .ok drawing) :
    drawing.arguments.filterMap declaredName? = declaredNames drawing.elements := by
  obtain ⟨first, rest, written, foreign⟩ := head_title declared
  have inScope := isScoped_declare declared
  rw [isScoped_append, Bool.and_eq_true] at inScope
  have unread {argument : String} {first : Char} {rest : List Char}
      (written : argument.toList = first :: rest) (foreign : first ∉ openingLetters) :
      declaredName? argument = none := by
    rw [declaredName?_eq, declaration?, (unread_of_not_mem_openingLetters written foreign).1]
    rfl
  rw [Drawing.arguments, List.filterMap_cons_none (unread rfl (by decide)),
    List.filterMap_cons_none (unread written foreign), filterMap_declaredName? inScope.1]

/-- No chart declares a name twice. -/
theorem checkNames_declare (declared : chart.declare context = .ok drawing) :
    checkNames drawing.arguments = .ok () := by
  have unique : firstRepeated? ∅ (declaredNames drawing.elements) = none :=
    (firstRepeated?_eq_none_iff ∅ _).mpr
      ⟨nodup_declaredNames declared, fun _ _ => Std.HashSet.not_mem_empty⟩
  rw [checkNames, filterMap_declaredName?_arguments declared, unique]

end Chart

end MainsCharts
