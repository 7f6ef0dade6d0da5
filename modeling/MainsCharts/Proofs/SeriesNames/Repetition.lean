import Mathlib.Data.List.Nodup
import Mathlib.Data.List.Perm.Basic
import MainsCharts.Proofs.Element.Reading

/-!
# Repeated names

An argument defines a name when it opens as a declaration and has an equals sign behind the opening:
the name is what stands between the two (`Defines`).  The check for repeated names goes through the
arguments with the names that it has seen.  It stops at the first argument whose name is among them,
and the names seen so far are those of the arguments before (`firstRepeated?_eq_some_iff`).

So arguments pass exactly when no two of them define the same name, and otherwise the name that is
complained about is that of the earliest argument that repeats one (`checkNames_settled`).  What
defines no name plays no part in this, nor does the order play one for passing.
-/

namespace MainsCharts

set_option autoImplicit false

open Text

variable {argument name : String} {arguments : List String}

/-! ## Definitions -/

/-- That an argument defines a name.  The kinds of series share one name space. -/
def Defines (argument name : String) : Prop :=
  '=' ∉ name.toList ∧
    ∃ (kind : SeriesKind) (rest : String), argument = kind.opening ++ name ++ "=" ++ rest

/-- That no two arguments define the same name. -/
def DefineApart (arguments : List String) : Prop :=
  arguments.Pairwise fun earlier later => ∀ name, Defines earlier name → ¬ Defines later name

theorem exists_of_afterDeclaration? {rest : List Char}
    (behind : afterDeclaration? argument.toList = some rest) :
    ∃ kind : SeriesKind, argument.toList = kind.opening.toList ++ rest := by
  obtain ⟨opening, member, found⟩ := List.exists_of_findSome?_eq_some behind
  rw [after?_eq_some_iff] at found
  simp only [declarationOpenings, List.mem_cons, List.not_mem_nil, or_false] at member
  rcases member with rfl | rfl | rfl
  · exact ⟨.stored, found⟩
  · exact ⟨.derived, found⟩
  · exact ⟨.scalar, found⟩

/-- **The name that an argument declares** is the one that it defines. -/
theorem declaredName?_eq_some_iff : declaredName? argument = some name ↔ Defines argument name := by
  constructor
  · intro declares
    obtain ⟨rest, behind, named⟩ := Option.bind_eq_some_iff.mp declares
    split at named
    · rename_i equals
      obtain ⟨before, after, rfl, clean⟩ := List.eq_append_cons_of_mem equals
      rw [Element.takeWhile_append_equals clean, Option.some.injEq] at named
      subst named
      obtain ⟨kind, split⟩ := exists_of_afterDeclaration? behind
      refine ⟨by rwa [String.toList_ofList], kind, String.ofList after, ?_⟩
      rw [← String.toList_inj, split]
      simp
    · exact nomatch named
  · rintro ⟨clean, kind, rest, rfl⟩
    exact Element.declaredName?_opened kind clean rest

theorem declaredName?_eq_none_iff :
    declaredName? argument = none ↔ ∀ name, ¬ Defines argument name := by
  simp only [Option.eq_none_iff_forall_ne_some, ne_eq, declaredName?_eq_some_iff]

/-- Names differ when the arguments define them apart. -/
theorem nodup_declaredNames_iff :
    (arguments.filterMap declaredName?).Nodup ↔ DefineApart arguments := by
  rw [List.Nodup, List.pairwise_filterMap, DefineApart]
  simp only [declaredName?_eq_some_iff]
  refine List.Pairwise.iff ?_
  intro earlier later
  constructor
  · intro apart name first second
    exact apart name first name second rfl
  · rintro apart name first _ second rfl
    exact apart name first second

/-- A name is declared by one of the arguments when one of them defines it. -/
theorem mem_declaredNames_iff :
    name ∈ arguments.filterMap declaredName? ↔ ∃ argument ∈ arguments, Defines argument name := by
  simp only [List.mem_filterMap, declaredName?_eq_some_iff]

/-! ## The first repetition -/

/-- **The name that is found** stands behind names that differ from one another and from those
already seen, and is one of them. -/
theorem firstRepeated?_eq_some_iff (seen : Std.HashSet String) (names : List String) :
    firstRepeated? seen names = some name ↔
      ∃ before after, names = before ++ name :: after ∧ before.Nodup ∧
        (∀ other ∈ before, other ∉ seen) ∧ (name ∈ seen ∨ name ∈ before) := by
  induction names generalizing seen with
  | nil => simp [firstRepeated?]
  | cons first rest ih =>
      by_cases known : first ∈ seen
      · rw [firstRepeated?, if_pos known, Option.some.injEq]
        constructor
        · rintro rfl
          exact ⟨[], rest, rfl, .nil, List.forall_mem_nil _, .inl known⟩
        · rintro ⟨before, after, split, -, fresh, -⟩
          cases before with
          | nil => exact (List.cons.inj split).1
          | cons other before =>
              obtain ⟨rfl, -⟩ := List.cons.inj split
              exact absurd known (fresh first List.mem_cons_self)
      · -- The first name is new, so it is one of those that are seen from there on.
        rw [firstRepeated?, if_neg known, ih]
        simp only [Std.HashSet.mem_insert, beq_iff_eq, not_or]
        constructor
        · rintro ⟨before, after, rfl, distinct, fresh, met⟩
          refine ⟨first :: before, after, rfl, List.nodup_cons.mpr ⟨?_, distinct⟩,
            List.forall_mem_cons.mpr ⟨known, fun other member => (fresh other member).2⟩, ?_⟩
          · exact fun member => (fresh first member).1 rfl
          · rcases met with (rfl | already) | member
            · exact .inr List.mem_cons_self
            · exact .inl already
            · exact .inr (List.mem_cons_of_mem first member)
        · rintro ⟨before, after, split, distinct, fresh, met⟩
          cases before with
          | nil =>
              obtain ⟨rfl, -⟩ := List.cons.inj split
              rcases met with already | member
              · exact absurd already known
              · exact absurd member List.not_mem_nil
          | cons other before =>
              obtain ⟨rfl, rfl⟩ := List.cons.inj split
              obtain ⟨once, others⟩ := List.nodup_cons.mp distinct
              refine ⟨before, after, rfl, others, ?_, ?_⟩
              · intro other member
                refine ⟨?_, fresh other (List.mem_cons_of_mem first member)⟩
                rintro rfl
                exact once member
              · rcases met with already | member
                · exact .inl (.inr already)
                · rcases List.mem_cons.mp member with rfl | member
                  · exact .inl (.inl rfl)
                  · exact .inr member

/-! ## The check -/

theorem checkNames_eq_ok_iff : checkNames arguments = .ok () ↔ DefineApart arguments := by
  have passes := firstRepeated?_eq_none_iff ∅ (arguments.filterMap declaredName?)
  simp only [Std.HashSet.not_mem_empty, not_false_eq_true, implies_true, and_true] at passes
  rw [← nodup_declaredNames_iff, ← passes, checkNames]
  split
  · rename_i name found
    rw [found]
    exact iff_of_false nofun nofun
  · rename_i missing
    exact iff_of_true rfl missing

/-- The earliest argument that repeats a name is complained about. -/
theorem checkNames_eq_error_iff {cause : Misuse} :
    checkNames arguments = .error cause ↔
      ∃ before argument after name, arguments = before ++ argument :: after ∧
        DefineApart before ∧ Defines argument name ∧
        (∃ earlier ∈ before, Defines earlier name) ∧ cause = .seriesRepeated name := by
  have refused : checkNames arguments = .error cause ↔
      ∃ name, firstRepeated? ∅ (arguments.filterMap declaredName?) = some name ∧
        cause = .seriesRepeated name := by
    rw [checkNames]
    split
    · rename_i name found
      simp only [found, Option.some.injEq, exists_eq_left', Except.error.injEq, eq_comm]
    · rename_i missing
      simp [missing]
  rw [refused]
  simp only [firstRepeated?_eq_some_iff, Std.HashSet.not_mem_empty, not_false_eq_true, implies_true,
    true_and, false_or]
  constructor
  · rintro ⟨name, ⟨names, others, split, distinct, met⟩, rfl⟩
    obtain ⟨first, second, rfl, rfl, further⟩ := List.filterMap_eq_append_iff.mp split
    obtain ⟨unnamed, argument, after, rfl, silent, declares, -⟩ :=
      List.filterMap_eq_cons_iff.mp further
    -- The arguments between the last name and the repeated one define nothing.
    have same : (first ++ unnamed).filterMap declaredName? = first.filterMap declaredName? := by
      rw [List.filterMap_append, List.filterMap_eq_nil_iff.mpr silent, List.append_nil]
    refine ⟨first ++ unnamed, argument, after, name, by simp, ?_,
      declaredName?_eq_some_iff.mp declares, ?_, rfl⟩
    · rwa [← nodup_declaredNames_iff, same]
    · rwa [← mem_declaredNames_iff, same]
  · rintro ⟨before, argument, after, name, rfl, apart, defines, met, rfl⟩
    refine ⟨name, ⟨before.filterMap declaredName?, after.filterMap declaredName?, ?_,
      nodup_declaredNames_iff.mpr apart, mem_declaredNames_iff.mpr met⟩, rfl⟩
    rw [List.filterMap_append, List.filterMap_cons_some (declaredName?_eq_some_iff.mpr defines)]

/-- **Names are checked for repetition.**  Arguments pass exactly when no two of them define the
same name, and otherwise the complaint names what the earliest argument defines that repeats a name.
They pass in every order or in none, and putting in others that define no name changes nothing. -/
theorem checkNames_settled (arguments : List String) :
    (checkNames arguments = .ok () ↔ DefineApart arguments) ∧
    (∀ cause, checkNames arguments = .error cause ↔
      ∃ before argument after name, arguments = before ++ argument :: after ∧
        DefineApart before ∧ Defines argument name ∧
        (∃ earlier ∈ before, Defines earlier name) ∧ cause = .seriesRepeated name) ∧
    (∀ others, arguments.Perm others →
      (checkNames others = .ok () ↔ checkNames arguments = .ok ())) ∧
    (∀ before after others, arguments = before ++ after →
      (∀ other ∈ others, ∀ name, ¬ Defines other name) →
        checkNames (before ++ others ++ after) = checkNames arguments) := by
  refine ⟨checkNames_eq_ok_iff, fun cause => checkNames_eq_error_iff, ?_, ?_⟩
  · intro others perm
    rw [checkNames_eq_ok_iff, checkNames_eq_ok_iff, ← nodup_declaredNames_iff,
      ← nodup_declaredNames_iff]
    exact (perm.filterMap declaredName?).nodup_iff.symm
  · rintro before after others rfl unnamed
    have silent : others.filterMap declaredName? = [] :=
      List.filterMap_eq_nil_iff.mpr fun other member =>
        declaredName?_eq_none_iff.mpr (unnamed other member)
    simp only [checkNames, List.filterMap_append, silent, List.append_nil]

/-- A comment that looks like a definition, and a declaration without an equals sign, between two
arguments with names of their own. -/
theorem checkNames_settled_commented :
    (∀ other ∈ ["COMMENT:a=b", "CDEF:a"], ∀ name, ¬ Defines other name) ∧
    checkNames (["DEF:a=/x:y:MIN"] ++ ["COMMENT:a=b", "CDEF:a"] ++ ["VDEF:b=a,LAST"]) =
      checkNames ["DEF:a=/x:y:MIN", "VDEF:b=a,LAST"] := by
  have unnamed : ∀ other ∈ ["COMMENT:a=b", "CDEF:a"], ∀ name, ¬ Defines other name := by
    have silent : ∀ other ∈ ["COMMENT:a=b", "CDEF:a"], declaredName? other = none := by decide
    exact fun other member => declaredName?_eq_none_iff.mp (silent other member)
  exact ⟨unnamed, (checkNames_settled ["DEF:a=/x:y:MIN", "VDEF:b=a,LAST"]).2.2.2
    ["DEF:a=/x:y:MIN"] ["VDEF:b=a,LAST"] _ rfl unnamed⟩

end MainsCharts
