/-!
# Letter case

Only the letters of the ASCII alphabet have two cases here.  So what a character becomes in upper
and in lower case is settled by a look at the ASCII characters one by one (`forall_ascii`), and
every other character stays as it is (`caseless_of_foreign`).

A character is what it is in upper case, or else that letter in lower case, and the other way round.
So there are two characters at most that are told apart by their case only.
-/

namespace MainsCharts.Text

set_option autoImplicit false

variable {character letter : Char}

/-- What holds of the ASCII characters one by one. -/
@[elab_as_elim]
theorem forall_ascii {Holds : Char → Prop} (character : Char) (small : character.toNat < 128)
    (listed : ∀ code < 128, Holds (Char.ofNat code)) : Holds character := by
  have holds := listed character.toNat small
  rwa [Char.ofNat_toNat] at holds

/-- Characters outside ASCII are no letters. -/
theorem caseless_of_foreign (foreign : ¬ character.toNat < 128) :
    character.toUpper = character ∧ character.toLower = character ∧
      character.isLower = false := by
  have outside {least most : Char} (ascii : most.toNat < 128) :
      ¬ (least.val ≤ character.val ∧ character.val ≤ most.val) := by
    rintro ⟨-, bounded⟩
    exact foreign (Nat.lt_of_le_of_lt bounded ascii)
  refine ⟨dif_neg (outside (by decide)), dif_neg (outside (by decide)), ?_⟩
  exact (Bool.decide_and _ _).symm.trans (decide_eq_false (outside (by decide)))

theorem eq_toUpper_or (character : Char) :
    character = character.toUpper ∨ character = character.toUpper.toLower := by
  by_cases small : character.toNat < 128
  · exact forall_ascii character small (by decide)
  · exact .inl (caseless_of_foreign small).1.symm

theorem eq_toLower_or (character : Char) :
    character = character.toLower ∨ character = character.toLower.toUpper := by
  by_cases small : character.toNat < 128
  · exact forall_ascii character small (by decide)
  · exact .inl (caseless_of_foreign small).2.1.symm

/-- A character that has a small letter for its lower case is a letter. -/
theorem isAlpha_of_isLower_toLower (small : character.toLower.isLower = true) :
    character.isAlpha = true := by
  by_cases ascii : character.toNat < 128
  · revert small
    exact forall_ascii character ascii (by decide)
  · obtain ⟨-, same, notSmall⟩ := caseless_of_foreign ascii
    rw [same, notSmall] at small
    exact Bool.noConfusion small

/-- The characters with a given small letter for their lower case. -/
theorem toLower_eq_iff (small : letter.isLower = true) :
    character.toLower = letter ↔ character = letter ∨ character = letter.toUpper := by
  constructor
  · rintro rfl
    exact eq_toLower_or character
  · have kept : letter.toLower = letter ∧ letter.toUpper.toLower = letter := by
      by_cases ascii : letter.toNat < 128
      · revert small
        exact forall_ascii letter ascii (by decide)
      · rw [(caseless_of_foreign ascii).2.2] at small
        exact Bool.noConfusion small
    rintro (rfl | rfl)
    · exact kept.1
    · exact kept.2

end MainsCharts.Text
