/-!
# Leftmost finds

A text is searched from left to right, and what is found first counts.  A find is described by
the text before it: nothing is found where a nonempty end of that text would start (`IsFirst`).
There is one such find at most (`IsFirst.unique`).

The searches of this library all go the same way: they look at the beginning of a text, and if
nothing is there at the beginning of what follows its first character.  Such a search finds what
stands first, and only that (`search_eq_some_iff`).
-/

namespace MainsCharts.Text

set_option autoImplicit false

/-! ## Finds -/

section Finds

variable {Stands : List Char → Prop} {before after earlier later : List Char}

/-- That something stands behind a part of a text, and nowhere before. -/
structure IsFirst (Stands : List Char → Prop) (before after : List Char) : Prop where
  here : Stands after
  notBefore : ∀ start skipped, before = start ++ skipped → skipped ≠ [] →
    ¬ Stands (skipped ++ after)

namespace IsFirst

theorem nil (here : Stands after) : IsFirst Stands [] after := by
  refine ⟨here, ?_⟩
  intro start skipped split nonempty
  exact absurd (List.append_eq_nil_iff.mp split.symm).2 nonempty

/-- A character that nothing starts with is passed over. -/
theorem cons {character : Char} (isFirst : IsFirst Stands before after)
    (missing : ¬ Stands (character :: before ++ after)) :
    IsFirst Stands (character :: before) after := by
  refine ⟨isFirst.here, ?_⟩
  intro start skipped split nonempty
  rcases List.cons_eq_append_iff.mp split with ⟨rfl, rfl⟩ | ⟨start, rfl, further⟩
  · exact missing
  · exact isFirst.notBefore start skipped further nonempty

theorem of_cons {character : Char} (isFirst : IsFirst Stands (character :: before) after) :
    ¬ Stands (character :: before ++ after) ∧ IsFirst Stands before after := by
  refine ⟨isFirst.notBefore [] _ rfl (List.cons_ne_nil _ _), isFirst.here, ?_⟩
  intro start skipped split nonempty
  exact isFirst.notBefore (character :: start) skipped (by rw [split, List.cons_append]) nonempty

/-- **There is one first find at most.** -/
theorem unique (isFirst : IsFirst Stands before after) (isFirstToo : IsFirst Stands earlier later)
    (same : before ++ after = earlier ++ later) : before = earlier ∧ after = later := by
  induction before generalizing earlier with
  | nil =>
      cases earlier with
      | nil => exact ⟨rfl, same⟩
      | cons character earlier =>
          rw [List.nil_append] at same
          exact absurd (same ▸ isFirst.here) isFirstToo.of_cons.1
  | cons character before ih =>
      cases earlier with
      | nil =>
          rw [List.nil_append] at same
          exact absurd (same ▸ isFirstToo.here) isFirst.of_cons.1
      | cons other earlier =>
          obtain ⟨rfl, rest⟩ := List.cons.inj same
          obtain ⟨rfl, sameAfter⟩ := ih isFirst.of_cons.2 isFirstToo.of_cons.2 rest
          exact ⟨rfl, sameAfter⟩

end IsFirst

end Finds

/-! ## Searches -/

section Searches

variable {α : Type} {Stands : List Char → Prop} {text : List Char} {found : α}
  (here? search : List Char → Option α) (stands : ∀ rest, (here? rest).isSome ↔ Stands rest)
  (nothing : here? [] = none) (ends : search [] = none)
  (goesOn : ∀ character rest,
    search (character :: rest) = (here? (character :: rest)).or (search rest))
include stands nothing ends goesOn

/-- **A search finds what stands first.** -/
theorem search_eq_some_iff :
    search text = some found ↔
      ∃ before after, text = before ++ after ∧ here? after = some found ∧
        IsFirst Stands before after := by
  induction text with
  | nil =>
      rw [ends]
      constructor
      · exact nofun
      · rintro ⟨before, after, split, here, -⟩
        rw [(List.append_eq_nil_iff.mp split.symm).2, nothing] at here
        exact nomatch here
  | cons character rest ih =>
      rw [goesOn]
      cases present : here? (character :: rest) with
      | some other =>
          rw [Option.some_or]
          constructor
          · rintro ⟨⟩
            exact ⟨[], _, rfl, present, .nil ((stands _).mp (by rw [present]; rfl))⟩
          · rintro ⟨before, after, split, here, isFirst⟩
            cases before with
            | nil =>
                obtain rfl : character :: rest = after := split
                exact present.symm.trans here
            | cons first before =>
                refine absurd ((stands _).mp ?_) isFirst.of_cons.1
                rw [← split, present]
                rfl
      | none =>
          rw [Option.none_or, ih]
          constructor
          · rintro ⟨before, after, rfl, here, isFirst⟩
            refine ⟨character :: before, after, rfl, here, isFirst.cons ?_⟩
            rw [List.cons_append, ← stands, present]
            exact Bool.false_ne_true
          · rintro ⟨before, after, split, here, isFirst⟩
            cases before with
            | nil =>
                obtain rfl : character :: rest = after := split
                rw [present] at here
                exact nomatch here
            | cons first before =>
                obtain ⟨rfl, rfl⟩ := List.cons.inj split
                exact ⟨before, after, rfl, here, isFirst.of_cons.2⟩

end Searches

end MainsCharts.Text
