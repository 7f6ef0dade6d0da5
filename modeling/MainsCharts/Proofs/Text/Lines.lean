import MainsCharts.Proofs.Text.Utf8
import MainsCharts.Text.Lines

/-!
# Lines of a text

A byte stream is cut after each line feed before it is read as text.  Since no other
character has a line feed among its bytes, the pieces of the bytes of a text are the bytes
of the lines of the text (`pieces_encode`).

What a list of lines has to be like to come out of a text again is the predicate
`IsCut`: a line feed ends every line but the last, and stands nowhere else
(`cutLines_flatten`).
-/

namespace MainsCharts.Text

set_option autoImplicit false

/-! ## Cutting -/

/-- The lines of a text, each ending with its line feed. -/
def cutLines : List Char → List (List Char)
  | [] => []
  | character :: rest =>
      if character = '\n' then [character] :: cutLines rest
      else
        match cutLines rest with
        | [] => [[character]]
        | first :: others => (character :: first) :: others

/-- That lines are those of a text: each ends with its line feed and has no other, and the
last one may go without. -/
inductive IsCut : List (List Char) → Prop where
  | nil : IsCut []
  | last {body : List Char} : '\n' ∉ body → body ≠ [] → IsCut [body]
  | cons {body : List Char} {rest : List (List Char)} :
      '\n' ∉ body → IsCut rest → IsCut ((body ++ ['\n']) :: rest)

theorem cutLines_append_newline {body : List Char} (plain : '\n' ∉ body) (rest : List Char) :
    cutLines (body ++ '\n' :: rest) = (body ++ ['\n']) :: cutLines rest := by
  induction body with
  | nil => rw [List.nil_append, cutLines, if_pos rfl, List.nil_append]
  | cons character body ih =>
      rw [List.mem_cons, not_or] at plain
      rw [List.cons_append, cutLines, if_neg (Ne.symm plain.1), ih plain.2, List.cons_append]

theorem cutLines_of_not_mem {body : List Char} (plain : '\n' ∉ body) (nonempty : body ≠ []) :
    cutLines body = [body] := by
  induction body with
  | nil => exact absurd rfl nonempty
  | cons character body ih =>
      rw [List.mem_cons, not_or] at plain
      rw [cutLines, if_neg (Ne.symm plain.1)]
      by_cases single : body = []
      · rw [single, cutLines]
      · rw [ih plain.2 single]

/-- **Lines are cut from their text again.** -/
theorem cutLines_flatten {lines : List (List Char)} (cut : IsCut lines) :
    cutLines lines.flatten = lines := by
  induction cut with
  | nil => rfl
  | last plain nonempty =>
      rw [List.flatten_singleton]
      exact cutLines_of_not_mem plain nonempty
  | cons plain _ ih =>
      rw [List.flatten_cons, List.append_assoc, List.singleton_append,
        cutLines_append_newline plain, ih]

theorem isCut_cutLines (text : List Char) : IsCut (cutLines text) := by
  induction text with
  | nil => exact .nil
  | cons character rest ih =>
      rw [cutLines]
      split
      · rename_i newline
        rw [newline]
        exact .cons List.not_mem_nil ih
      · rename_i other
        have fresh {body : List Char} (plain : '\n' ∉ body) : '\n' ∉ character :: body :=
          List.not_mem_cons_of_ne_of_not_mem (Ne.symm other) plain
        generalize cutLines rest = lines at ih
        cases ih with
        | nil => exact .last (fresh List.not_mem_nil) (List.cons_ne_nil _ _)
        | last plain _ => exact .last (fresh plain) (List.cons_ne_nil _ _)
        | cons plain further => exact .cons (fresh plain) further

/-- Lines that are changed without touching their line feeds. -/
theorem IsCut.map {lines : List (List Char)} (cut : IsCut lines) {change : List Char → List Char}
    (keeps : ∀ body ending, '\n' ∉ body → ending = [] ∨ ending = ['\n'] →
      ∃ changed, change (body ++ ending) = changed ++ ending ∧ '\n' ∉ changed ∧
        (body ≠ [] → changed ≠ [])) :
    IsCut (lines.map change) := by
  induction cut with
  | nil => exact .nil
  | @last body plain nonempty =>
      obtain ⟨changed, same, fresh, kept⟩ := keeps body [] plain (.inl rfl)
      rw [List.append_nil, List.append_nil] at same
      rw [List.map_singleton, same]
      exact .last fresh (kept nonempty)
  | @cons body rest plain _ ih =>
      obtain ⟨changed, same, fresh, _⟩ := keeps body ['\n'] plain (.inr rfl)
      rw [List.map_cons, same]
      exact .cons fresh ih

/-! ## Pieces of bytes -/

/-- No byte of a character of several bytes is that of another character. -/
theorem le_toNat_of_mem_encodeChar {character : Char} (wide : 0x7F < character.val.toNat)
    {byte : UInt8} (member : byte ∈ String.utf8EncodeChar character) : 0x80 ≤ byte.toNat := by
  rw [String.utf8EncodeChar, if_neg (by omega)] at member
  generalize character.val.toNat = code at member wide
  have high {number : Nat} (bound : 0x80 ≤ number ∧ number < 256) :
      0x80 ≤ (UInt8.ofNat number).toNat := by
    rw [UInt8.toNat_ofNat_of_lt' bound.2]
    exact bound.1
  split at member
  · simp only [List.mem_cons, List.not_mem_nil, or_false] at member
    rcases member with rfl | rfl <;> exact high (by omega)
  split at member
  · simp only [List.mem_cons, List.not_mem_nil, or_false] at member
    rcases member with rfl | rfl | rfl <;> exact high (by omega)
  · simp only [List.mem_cons, List.not_mem_nil, or_false] at member
    rcases member with rfl | rfl | rfl | rfl <;> exact high (by omega)

/-- A line feed is the only character with the byte of a line feed. -/
theorem newline_mem_encodeChar_iff {character : Char} :
    0x0A ∈ String.utf8EncodeChar character ↔ character = '\n' := by
  constructor
  · intro member
    have single : character.val.toNat ≤ 0x7F := Nat.le_of_not_lt fun wide =>
      absurd (le_toNat_of_mem_encodeChar wide member) (by decide)
    rw [String.utf8EncodeChar, if_pos single, List.mem_singleton] at member
    have narrow : character.val.toNat < 256 := by omega
    have codes := congrArg UInt8.toNat member
    rw [UInt8.toNat_ofNat_of_lt' narrow] at codes
    exact Char.ext (UInt32.toNat_inj.mp codes.symm)
  · rintro rfl
    decide

/-- A stream that is not empty has a first piece, and that is not empty. -/
theorem exists_pieces_eq_cons {bytes : List UInt8} (nonempty : bytes ≠ []) :
    ∃ first others, pieces bytes = first :: others ∧ first ≠ [] := by
  cases bytes with
  | nil => exact absurd rfl nonempty
  | cons byte rest =>
      rw [pieces]
      split
      · exact ⟨_, _, rfl, by simp⟩
      · split
        · exact ⟨_, _, rfl, by simp⟩
        · exact ⟨_, _, rfl, by simp⟩

/-- Bytes without a line feed in front of others belong to their first piece. -/
theorem pieces_append {body : List UInt8} (plain : 0x0A ∉ body) (nonempty : body ≠ [])
    (rest : List UInt8) :
    pieces (body ++ rest) =
      match pieces rest with
      | [] => [body]
      | first :: others => (body ++ first) :: others := by
  induction body with
  | nil => exact absurd rfl nonempty
  | cons byte body ih =>
      rw [List.mem_cons, not_or] at plain
      rw [List.cons_append, pieces, if_neg (Ne.symm plain.1)]
      by_cases single : body = []
      · rw [single, List.nil_append]
        cases pieces rest <;> rfl
      · rw [ih plain.2 single]
        cases pieces rest <;> rfl

/-- **The pieces of the bytes of a text** are the bytes of its lines. -/
theorem pieces_encode (text : List Char) :
    pieces (Utf8.encode text) = (cutLines text).map Utf8.encode := by
  induction text with
  | nil => rfl
  | cons character rest ih =>
      rw [Utf8.encode_cons, cutLines]
      split
      · rename_i newline
        subst newline
        rw [show String.utf8EncodeChar '\n' = [0x0A] by decide, List.singleton_append, pieces,
          if_pos rfl, ih]
        rfl
      · rename_i other
        rw [pieces_append (mt newline_mem_encodeChar_iff.mp other) String.utf8EncodeChar_ne_nil, ih]
        cases cutLines rest with
        | nil =>
            rw [List.map_nil, List.map_singleton, Utf8.encode_cons,
              show Utf8.encode [] = [] from rfl, List.append_nil]
        | cons first others => rw [List.map_cons, List.map_cons, Utf8.encode_cons]

/-- The lines of the bytes of a text, without their terminators. -/
theorem lines_encode (text : List Char) :
    lines (Utf8.encode text) = (cutLines text).map fun line => some (withoutTerminator line) := by
  rw [lines, pieces_encode, List.map_map]
  refine List.map_congr_left ?_
  intro line _
  rw [Function.comp_apply, Utf8.decode?_encode, Option.map_some]

end MainsCharts.Text
