import Mathlib.Data.List.TakeWhile
import MainsCharts.Text.Ends
import MainsCharts.Text.Lines

/-!
# White space around a text

What is left of a text when the white space around it is removed neither starts nor ends with
white space (`isTrimmed_trim`), and a text that neither does is left as it is (`trim_surrounded`).
Nothing is left exactly when there was nothing but white space (`trim_eq_nil_iff`).  The terminator
of a line is white space too (`trim_withoutTerminator`).
-/

namespace MainsCharts.Text

set_option autoImplicit false

theorem isBlank_of_isDigit {character : Char} (digit : character.isDigit = true) :
    isBlank character = false := by
  simp only [Char.isDigit, Bool.and_eq_true, decide_eq_true_eq, ge_iff_le, UInt32.le_iff_toNat_le]
    at digit
  obtain ⟨least, greatest⟩ : 48 ≤ character.toNat ∧ character.toNat ≤ 57 := digit
  simp only [isBlank, Bool.or_eq_false_iff, Bool.and_eq_false_iff, decide_eq_false_iff_not,
    beq_eq_false_iff_ne]
  omega

/-- That there is no white space in a text. -/
def IsSolid (text : List Char) : Prop :=
  ∀ character ∈ text, isBlank character = false

theorem isSolid_of_all {text : List Char}
    (solid : (text.all fun character => !isBlank character) = true) : IsSolid text := by
  intro character member
  simpa using List.all_eq_true.mp solid character member

theorem isSolid_of_isDigit {text : List Char} (digits : text.all Char.isDigit = true) :
    IsSolid text :=
  fun character member => isBlank_of_isDigit (List.all_eq_true.mp digits character member)

theorem IsSolid.append {first second : List Char} (solid : IsSolid first)
    (others : IsSolid second) : IsSolid (first ++ second) :=
  List.forall_mem_append.mpr ⟨solid, others⟩

theorem IsSolid.cons {character : Char} {text : List Char} (solid : isBlank character = false)
    (others : IsSolid text) : IsSolid (character :: text) :=
  List.forall_mem_cons.mpr ⟨solid, others⟩

theorem trim_append_singleton {character : Char} (blank : isBlank character = true)
    (text : List Char) : trim (text ++ [character]) = trim text := by
  rw [trim, trim, trimStart, trimStart, List.dropWhile_append]
  split
  · rename_i nothing
    rw [List.isEmpty_iff.mp nothing, List.dropWhile_cons_of_pos blank, List.dropWhile_nil]
  · rw [trimEnd, trimEnd, List.reverse_append, List.reverse_singleton, List.singleton_append,
      List.dropWhile_cons_of_pos blank]

/-- That a text neither starts nor ends with white space. -/
structure IsTrimmed (text : List Char) : Prop where
  first : ∀ character ∈ text.head?, isBlank character = false
  last : ∀ character ∈ text.getLast?, isBlank character = false

theorem IsSolid.isTrimmed {text : List Char} (solid : IsSolid text) : IsTrimmed text :=
  ⟨fun character first => solid character (List.mem_of_head? first),
    fun character last => solid character (List.mem_of_getLast? last)⟩

theorem dropWhile_isBlank_eq_self {text : List Char}
    (first : ∀ character ∈ text.head?, isBlank character = false) :
    text.dropWhile isBlank = text := by
  cases text with
  | nil => rfl
  | cons character rest => exact List.dropWhile_cons_of_neg (Bool.eq_false_iff.mp (first _ rfl))

/-- What stands behind white space starts with something else. -/
theorem isBlank_of_head?_dropWhile (text : List Char) :
    ∀ character ∈ (text.dropWhile isBlank).head?, isBlank character = false := by
  intro character first
  have stopped := List.head?_dropWhile_not isBlank text
  rw [Option.mem_def.mp first] at stopped
  exact stopped

/-- Nothing is left of white space, and something of everything else. -/
theorem trim_eq_nil_iff {text : List Char} :
    trim text = [] ↔ ∀ character ∈ text, isBlank character = true := by
  have stopped := isBlank_of_head?_dropWhile text
  rw [← List.dropWhile_eq_nil_iff, trim, trimEnd, List.reverse_eq_nil_iff, trimStart]
  cases left : text.dropWhile isBlank with
  | nil => exact iff_of_true rfl rfl
  | cons character rest =>
      rw [left] at stopped
      refine iff_of_false ?_ (List.cons_ne_nil character rest)
      rw [List.dropWhile_eq_nil_iff]
      intro blank
      have first := blank character (List.mem_reverse.mpr List.mem_cons_self)
      exact Bool.eq_false_iff.mp (stopped character rfl) first

/-- **White space around a text** is all that is removed. -/
theorem trim_surrounded {before inner behind : List Char}
    (blankBefore : ∀ character ∈ before, isBlank character = true)
    (blankBehind : ∀ character ∈ behind, isBlank character = true) (isTrimmed : IsTrimmed inner) :
    trim (before ++ (inner ++ behind)) = inner := by
  by_cases nothing : inner = []
  · rw [nothing, List.nil_append, trim_eq_nil_iff, List.forall_mem_append]
    exact ⟨blankBefore, blankBehind⟩
  · have first : ∀ character ∈ (inner ++ behind).head?, isBlank character = false := by
      obtain ⟨character, rest, rfl⟩ := List.exists_cons_of_ne_nil nothing
      exact isTrimmed.first
    have last : ∀ character ∈ inner.reverse.head?, isBlank character = false := by
      rw [List.head?_reverse]
      exact isTrimmed.last
    have blankReversed : ∀ character ∈ behind.reverse, isBlank character = true :=
      fun character member => blankBehind character (List.mem_reverse.mp member)
    rw [trim, trimStart, List.dropWhile_append_of_pos blankBefore, dropWhile_isBlank_eq_self first,
      trimEnd, List.reverse_append, List.dropWhile_append_of_pos blankReversed,
      dropWhile_isBlank_eq_self last, List.reverse_reverse]

theorem IsTrimmed.trim_eq {text : List Char} (isTrimmed : IsTrimmed text) : trim text = text := by
  have kept := @trim_surrounded [] text [] nofun nofun isTrimmed
  rwa [List.nil_append, List.append_nil] at kept

theorem trim_eq_self {text : List Char} (solid : IsSolid text) : trim text = text :=
  solid.isTrimmed.trim_eq

/-- White space does not stand at the end of what is left of a text. -/
theorem IsTrimmed.eq_nil_of_append {start behind : List Char}
    (isTrimmed : IsTrimmed (start ++ behind))
    (blank : ∀ character ∈ behind, isBlank character = true) : behind = [] := by
  rcases List.eq_nil_or_concat behind with rfl | ⟨others, character, rfl⟩
  · rfl
  rw [List.concat_eq_append] at isTrimmed blank ⊢
  have solid := isTrimmed.last character
    (by rw [← List.append_assoc, List.getLast?_append, List.getLast?_singleton]; rfl)
  rw [blank character (List.mem_append_right others List.mem_cons_self)] at solid
  exact absurd solid.symm Bool.false_ne_true

/-- What was removed from the end of a text. -/
theorem exists_trimEnd (text : List Char) :
    ∃ behind, text = trimEnd text ++ behind ∧ ∀ character ∈ behind, isBlank character = true := by
  refine ⟨(text.reverse.takeWhile isBlank).reverse, ?_, ?_⟩
  · rw [trimEnd, ← List.reverse_append, List.takeWhile_append_dropWhile, List.reverse_reverse]
  · intro character member
    exact List.mem_takeWhile_imp (List.mem_reverse.mp member)

/-- **What is removed from a text** is white space on both sides. -/
theorem exists_trim (text : List Char) :
    ∃ before behind, text = before ++ (trim text ++ behind) ∧
      (∀ character ∈ before, isBlank character = true) ∧
        ∀ character ∈ behind, isBlank character = true := by
  obtain ⟨behind, split, blank⟩ := exists_trimEnd (trimStart text)
  refine ⟨text.takeWhile isBlank, behind, ?_, fun _ member => List.mem_takeWhile_imp member, blank⟩
  rw [trim, ← split, trimStart, List.takeWhile_append_dropWhile]

/-- **What is left of a text** neither starts nor ends with white space. -/
theorem isTrimmed_trim (text : List Char) : IsTrimmed (trim text) := by
  obtain ⟨behind, split, -⟩ := exists_trimEnd (trimStart text)
  constructor
  · intro character first
    refine isBlank_of_head?_dropWhile text character ?_
    rw [trim, Option.mem_def] at first
    rw [← trimStart, split, List.head?_append, first]
    rfl
  · rw [trim, trimEnd, List.getLast?_reverse]
    exact isBlank_of_head?_dropWhile (trimStart text).reverse

/-! ## Terminators -/

/-- The terminator of a line is its line feed, and a carriage return in front of that. -/
theorem eq_withoutTerminator (line : List Char) :
    line = withoutTerminator (line ++ ['\n']) ∨
      line = withoutTerminator (line ++ ['\n']) ++ ['\r'] := by
  rw [withoutTerminator, List.reverse_append, List.reverse_singleton, List.singleton_append]
  split
  · rename_i rest reversed
    right
    rw [← List.reverse_cons, ← (List.cons.inj reversed).2, List.reverse_reverse]
  · rename_i rest _ reversed
    left
    rw [← (List.cons.inj reversed).2, List.reverse_reverse]
  · rename_i neither
    exact absurd rfl (neither line.reverse)

/-- A line without a line feed has no terminator. -/
theorem withoutTerminator_eq_self {line : List Char} (plain : '\n' ∉ line) :
    withoutTerminator line = line := by
  have ended {rest : List Char} (reversed : line.reverse = '\n' :: rest) : '\n' ∈ line := by
    rw [← List.mem_reverse, reversed]
    exact List.mem_cons_self
  rw [withoutTerminator]
  split
  · rename_i reversed
    exact absurd (ended reversed) plain
  · rename_i reversed
    exact absurd (ended reversed) plain
  · rfl

/-- The terminator of a line is white space. -/
theorem trim_withoutTerminator (line : List Char) :
    trim (withoutTerminator (line ++ ['\n'])) = trim line := by
  rcases eq_withoutTerminator line with same | carried
  · rw [← same]
  · have trimmed := trim_append_singleton (show isBlank '\r' = true by decide)
      (withoutTerminator (line ++ ['\n']))
    rw [← carried] at trimmed
    exact trimmed.symm

theorem trim_withoutTerminator_eq (line : List Char) :
    trim (withoutTerminator line) = trim line := by
  rcases List.eq_nil_or_concat line with rfl | ⟨body, character, rfl⟩
  · rfl
  rw [List.concat_eq_append]
  by_cases newline : character = '\n'
  · rw [newline, trim_withoutTerminator, trim_append_singleton (by decide)]
  · have kept : withoutTerminator (body ++ [character]) = body ++ [character] := by
      simp [withoutTerminator, newline]
    rw [kept]

end MainsCharts.Text
