import Mathlib.Data.List.TakeWhile
import MainsCharts.Dump

/-!
# Blanking the values of a row

Blanking puts one and the same value in place of every value of a text.  Two texts are
alike when they differ in nothing but what stands between the tags of values
(`Alike`).  A text is alike to what it is blanked to (`alike_blankValues`), and two
things are the same for texts that are alike: their row time (`Alike.time?_eq`) and what
they are blanked to (`Alike.blankValues_eq`).  So blanking neither destroys nor moves nor
creates a row time or a value, and blanking a second time changes nothing.

The reason is that the tags keep the two searches apart.  A value has no angle bracket
in it, so a scan over the characters of one cannot run into another; and a row time ends in
a bracket behind a dash and has none before, while the brackets of tags stand elsewhere.
-/

namespace MainsCharts.Dump

set_option autoImplicit false

open Numeral Text

/-! ## Values -/

/-- That a text can stand between the tags of a value. -/
def IsValue (inner : List Char) : Prop :=
  inner ≠ [] ∧ ∀ character ∈ inner, isValueChar character = true

/-- A value with its tags, in front of other text. -/
def tagged (inner rest : List Char) : List Char :=
  openingTag ++ (inner ++ (closingTag ++ rest))

theorem tagged_eq (inner rest : List Char) :
    tagged inner rest = '<' :: 'v' :: '>' :: (inner ++ '<' :: ('/' :: 'v' :: '>' :: rest)) :=
  rfl

theorem tagged_append (inner rest further : List Char) :
    tagged inner (rest ++ further) = tagged inner rest ++ further := by
  simp [tagged]

theorem lessThan_not_mem {inner : List Char} (value : IsValue inner) : '<' ∉ inner := by
  intro member
  exact absurd (value.2 '<' member) (by decide)

theorem greaterThan_not_mem {inner : List Char} (value : IsValue inner) : '>' ∉ inner := by
  intro member
  exact absurd (value.2 '>' member) (by decide)

/-- A value ends where its closing tag starts. -/
theorem takeWhile_isValueChar {inner : List Char} (value : IsValue inner) (rest : List Char) :
    (inner ++ (closingTag ++ rest)).takeWhile isValueChar = inner ∧
      (inner ++ (closingTag ++ rest)).dropWhile isValueChar = closingTag ++ rest := by
  rw [List.takeWhile_append_of_pos value.2, List.dropWhile_append_of_pos value.2]
  exact ⟨List.append_nil inner, rfl⟩

/-- **A value is found** exactly where one stands with its tags. -/
theorem afterValue?_eq_some_iff {text rest : List Char} :
    afterValue? text = some rest ↔ ∃ inner, IsValue inner ∧ text = tagged inner rest := by
  simp only [afterValue?, Option.bind_eq_bind, Option.bind_eq_some_iff, after?_eq_some_iff]
  constructor
  · rintro ⟨further, rfl, found⟩
    split at found
    · cases found
    · rename_i nonempty
      refine ⟨further.takeWhile isValueChar, ⟨?_, ?_⟩, ?_⟩
      · rwa [List.isEmpty_iff] at nonempty
      · intro character member
        exact List.mem_takeWhile_imp member
      · rw [tagged, ← after?_eq_some_iff.mp found, List.takeWhile_append_dropWhile]
  · rintro ⟨inner, value, rfl⟩
    obtain ⟨taken, dropped⟩ := takeWhile_isValueChar value rest
    have nonempty : ¬ inner.isEmpty = true := by
      rw [List.isEmpty_iff]
      exact value.1
    exact ⟨_, rfl, by rw [taken, dropped, if_neg nonempty, after?_eq_some_iff]⟩

theorem afterValue?_tagged {inner : List Char} (value : IsValue inner) (rest : List Char) :
    afterValue? (tagged inner rest) = some rest :=
  afterValue?_eq_some_iff.mpr ⟨inner, value, rfl⟩

/-- No value starts with another character than a tag does. -/
theorem afterValue?_of_ne {character : Char} (other : character ≠ '<') (rest : List Char) :
    afterValue? (character :: rest) = none := by
  simp [afterValue?, openingTag, after?, Ne.symm other]

theorem isValue_blank : IsValue [' ', 'N', 'a', 'N', ' '] :=
  ⟨List.cons_ne_nil _ _, List.all_eq_true.mp (by decide)⟩

/-! ## Blanking from left to right -/

theorem blankValues_nil : blankValues [] = [] := by
  rw [blankValues]

theorem blankValues_of_some {text rest : List Char} (found : afterValue? text = some rest) :
    blankValues text = tagged [' ', 'N', 'a', 'N', ' '] (blankValues rest) := by
  cases text with
  | nil => cases found
  | cons character others =>
      rw [blankValues]
      split
      · rename_i further foundAgain
        rw [found] at foundAgain
        rw [← Option.some.inj foundAgain]
        rfl
      · rename_i missing
        rw [found] at missing
        cases missing

theorem blankValues_of_none {character : Char} {others : List Char}
    (missing : afterValue? (character :: others) = none) :
    blankValues (character :: others) = character :: blankValues others := by
  rw [blankValues]
  split
  · rename_i further found
    rw [missing] at found
    cases found
  · rfl

/-- Blanking follows the values from left to right. -/
theorem blanking_induction {motive : List Char → Prop} (nil : motive [])
    (value : ∀ inner rest, IsValue inner → motive rest → motive (tagged inner rest))
    (character : ∀ character others, afterValue? (character :: others) = none → motive others →
      motive (character :: others)) (text : List Char) : motive text := by
  induction text using blankValues.induct with
  | case1 => exact nil
  | case2 first others rest found ih =>
      obtain ⟨inner, isValue, split⟩ := afterValue?_eq_some_iff.mp found
      rw [split]
      exact value inner rest isValue ih
  | case3 first others missing ih => exact character first others missing ih

/-! ## Texts that differ in their values only -/

/-- That two texts differ in nothing but what stands between the tags of values. -/
inductive Alike : List Char → List Char → Prop where
  | nil : Alike [] []
  | value {inner other rest further : List Char} :
      IsValue inner → IsValue other → Alike rest further →
      Alike (tagged inner rest) (tagged other further)
  | character (character : Char) {rest further : List Char} :
      Alike rest further → Alike (character :: rest) (character :: further)

namespace Alike

variable {text other rest further : List Char} {character : Char}

theorem refl (text : List Char) : Alike text text := by
  induction text with
  | nil => exact .nil
  | cons first others ih => exact .character first ih

theorem symm (alike : Alike text other) : Alike other text := by
  induction alike with
  | nil => exact .nil
  | value isValue isOther _ ih => exact .value isOther isValue ih
  | character first _ ih => exact .character first ih

/-- What is alike to a text starts with the same character, and what follows is alike as well
unless a value starts there. -/
theorem of_cons (alike : Alike (character :: rest) other)
    (plain : afterValue? (character :: rest) = none) :
    ∃ further, other = character :: further ∧ Alike rest further := by
  generalize split : character :: rest = text at alike
  cases alike with
  | nil => exact nomatch split
  | value isValue _ _ =>
      rw [split, afterValue?_tagged isValue] at plain
      exact nomatch plain
  | character _ others =>
      obtain ⟨rfl, rfl⟩ := List.cons.inj split
      exact ⟨_, rfl, others⟩

theorem of_cons_of_ne (alike : Alike (character :: rest) other) (plain : character ≠ '<') :
    ∃ further, other = character :: further ∧ Alike rest further :=
  alike.of_cons (afterValue?_of_ne plain rest)

/-- Characters before the next tag are the same in both texts. -/
theorem exists_of_append {opening : List Char} (plain : '<' ∉ opening)
    (alike : Alike (opening ++ rest) other) :
    ∃ further, other = opening ++ further ∧ Alike rest further := by
  induction opening generalizing other with
  | nil => exact ⟨other, rfl, alike⟩
  | cons first opening ih =>
      rw [List.mem_cons, not_or] at plain
      obtain ⟨further, rfl, others⟩ := alike.of_cons_of_ne (Ne.symm plain.1)
      obtain ⟨last, rfl, rests⟩ := ih plain.2 others
      exact ⟨last, rfl, rests⟩

/-- A value is found in both texts. -/
theorem exists_afterValue? (alike : Alike text other) (found : afterValue? text = some rest) :
    ∃ further, afterValue? other = some further ∧ Alike rest further := by
  cases alike with
  | nil => exact nomatch found
  | @value _ another _ further isValue isOther others =>
      rw [afterValue?_tagged isValue] at found
      exact ⟨further, afterValue?_tagged isOther further, Option.some.inj found ▸ others⟩
  | character first others =>
      obtain ⟨inner, isValue, split⟩ := afterValue?_eq_some_iff.mp found
      rw [tagged_eq] at split
      obtain ⟨rfl, rfl⟩ := List.cons.inj split
      -- Up to the next bracket both texts have the same characters, and there both tags close.
      have untagged : '<' ∉ 'v' :: '>' :: inner := by
        simp [lessThan_not_mem isValue]
      obtain ⟨_, rfl, closing⟩ := others.exists_of_append untagged
      obtain ⟨_, rfl, closed⟩ := closing.of_cons rfl
      have closingUntagged : '<' ∉ ['/', 'v', '>'] := by decide
      obtain ⟨further, rfl, rests⟩ := closed.exists_of_append closingUntagged
      exact ⟨further, afterValue?_tagged isValue further, rests⟩

/-- **Texts that are alike are blanked to the same text.** -/
theorem blankValues_eq (alike : Alike text other) : blankValues text = blankValues other := by
  induction text using blanking_induction generalizing other with
  | nil =>
      cases alike with
      | nil => rfl
  | value inner rest isValue ih =>
      have found := afterValue?_tagged isValue rest
      obtain ⟨further, foundOther, rests⟩ := alike.exists_afterValue? found
      rw [blankValues_of_some found, blankValues_of_some foundOther, ih rests]
  | character first others missing ih =>
      obtain ⟨further, rfl, rests⟩ := alike.of_cons missing
      have missingOther : afterValue? (first :: further) = none := by
        rw [Option.eq_none_iff_forall_ne_some]
        intro rest found
        obtain ⟨_, foundFirst, _⟩ := alike.symm.exists_afterValue? found
        rw [missing] at foundFirst
        exact nomatch foundFirst
      rw [blankValues_of_none missing, blankValues_of_none missingOther, ih rests]

end Alike

/-- A text is alike to what it is blanked to. -/
theorem alike_blankValues (text : List Char) : Alike text (blankValues text) := by
  induction text using blanking_induction with
  | nil =>
      rw [blankValues_nil]
      exact .nil
  | value inner rest isValue ih =>
      rw [blankValues_of_some (afterValue?_tagged isValue rest)]
      exact .value isValue isValue_blank ih
  | character first others missing ih =>
      rw [blankValues_of_none missing]
      exact .character first ih

/-- **Blanking a second time changes nothing.** -/
theorem blankValues_blankValues (text : List Char) :
    blankValues (blankValues text) = blankValues text :=
  (alike_blankValues text).blankValues_eq.symm

/-! ## Line feeds -/

theorem blankValues_ne_nil {text : List Char} (nonempty : text ≠ []) : blankValues text ≠ [] := by
  intro blank
  have alike := alike_blankValues text
  rw [blank] at alike
  cases alike with
  | nil => exact nonempty rfl

/-- What blanking puts in has no line feed. -/
theorem newline_not_mem_blankValues {text : List Char} (plain : '\n' ∉ text) :
    '\n' ∉ blankValues text := by
  induction text using blanking_induction with
  | nil => rwa [blankValues_nil]
  | value inner rest isValue ih =>
      simp only [tagged, List.mem_append, not_or] at plain
      rw [blankValues_of_some (afterValue?_tagged isValue rest)]
      simp [tagged, openingTag, closingTag, ih plain.2.2.2]
  | character first others missing ih =>
      rw [List.mem_cons, not_or] at plain
      rw [blankValues_of_none missing]
      exact List.not_mem_cons_of_ne_of_not_mem plain.1 (ih plain.2)

/-- A character behind a text stays there, as long as it ends no tag. -/
theorem blankValues_append_singleton {last : Char} (notBracket : last ≠ '>') (text : List Char) :
    blankValues (text ++ [last]) = blankValues text ++ [last] := by
  induction text using blanking_induction with
  | nil =>
      have missing : afterValue? [last] = none := by
        simp [afterValue?, openingTag, after?]
      rw [List.nil_append, blankValues_of_none missing, blankValues_nil, List.nil_append]
  | value inner rest isValue ih =>
      rw [← tagged_append, blankValues_of_some (afterValue?_tagged isValue _),
        blankValues_of_some (afterValue?_tagged isValue _), ih, tagged_append]
  | character first others missing ih =>
      have missingBefore : afterValue? (first :: (others ++ [last])) = none := by
        rw [Option.eq_none_iff_forall_ne_some]
        intro rest found
        obtain ⟨inner, isValue, split⟩ := afterValue?_eq_some_iff.mp found
        rw [← List.cons_append] at split
        rcases List.eq_nil_or_concat rest with rfl | ⟨further, other, rfl⟩
        · have ends : tagged inner [] = (openingTag ++ (inner ++ ['<', '/', 'v'])) ++ ['>'] := by
            simp [tagged, closingTag]
          rw [ends] at split
          exact notBracket (List.singleton_inj.mp (List.append_inj' split rfl).2)
        · rw [List.concat_eq_append, tagged_append] at split
          rw [(List.append_inj' split rfl).1, afterValue?_tagged isValue] at missing
          cases missing
      rw [List.cons_append, blankValues_of_none missingBefore, ih, blankValues_of_none missing,
        List.cons_append]

/-! ## Row times -/

/-- The text of a row time, from the stroke on. -/
def timed (digits : List Char) : List Char :=
  [' ', '/', ' '] ++ (digits ++ [' ', '-', '-', '>'])

/-- That a text can be the digits of a row time. -/
def IsTime (digits : List Char) : Prop :=
  digits ≠ [] ∧ ∀ digit ∈ digits, digit.isDigit = true

/-- **A row time is found** exactly where one is written. -/
theorem timeHere?_eq_some_iff {text digits : List Char} :
    timeHere? text = some digits ↔ IsTime digits ∧ ∃ rest, text = timed digits ++ rest := by
  simp only [timeHere?, Option.bind_eq_bind, Option.bind_eq_some_iff, after?_eq_some_iff]
  constructor
  · rintro ⟨further, rfl, rest, behind, found⟩
    split at found
    · exact nomatch found
    · rename_i nonempty
      obtain rfl := Option.some.inj found
      rw [List.isEmpty_iff] at nonempty
      refine ⟨⟨nonempty, fun digit member => List.mem_takeWhile_imp member⟩, rest, ?_⟩
      rw [timed, List.append_assoc, List.append_assoc, ← behind, List.takeWhile_append_dropWhile]
  · rintro ⟨⟨nonempty, allDigits⟩, rest, rfl⟩
    refine ⟨digits ++ ([' ', '-', '-', '>'] ++ rest), by simp [timed], rest, ?_, ?_⟩
    · rw [List.dropWhile_append_of_pos allDigits]
      rfl
    · have stops : ([' ', '-', '-', '>'] ++ rest).takeWhile Char.isDigit = [] := rfl
      rw [List.takeWhile_append_of_pos allDigits, stops, List.append_nil,
        if_neg (by rwa [List.isEmpty_iff])]

theorem time?_cons (character : Char) (rest : List Char) :
    time? (character :: rest) = (timeHere? (character :: rest)).or (time? rest) :=
  rfl

/-- No row time starts with another character than a space. -/
theorem time?_cons_of_ne {character : Char} (other : character ≠ ' ') (rest : List Char) :
    time? (character :: rest) = time? rest := by
  have missing : timeHere? (character :: rest) = none := by
    simp [timeHere?, after?, Ne.symm other]
  rw [time?_cons, missing, Option.none_or]

theorem lessThan_not_mem_timed {digits : List Char} (isTime : IsTime digits) :
    '<' ∉ timed digits := by
  have noDigit : '<' ∉ digits := fun member => absurd (isTime.2 '<' member) (by decide)
  simp [timed, noDigit]

/-- A row time has ended before the next tag starts. -/
theorem timeHere?_append_tag {before : List Char} (unclosed : '>' ∉ before) (rest : List Char) :
    timeHere? (before ++ '<' :: rest) = none := by
  rw [Option.eq_none_iff_forall_ne_some]
  intro digits found
  obtain ⟨isTime, further, split⟩ := timeHere?_eq_some_iff.mp found
  have ending : '>' ∈ timed digits := by simp [timed]
  rcases List.append_eq_append_iff.mp split with ⟨more, isTimed, tag⟩ | ⟨more, isBefore, _⟩
  · cases more with
    | nil =>
        rw [isTimed, List.append_nil] at ending
        exact unclosed ending
    | cons first more =>
        obtain ⟨rfl, _⟩ := List.cons.inj tag
        refine lessThan_not_mem_timed isTime ?_
        rw [isTimed]
        exact List.mem_append_right before List.mem_cons_self
  · rw [isBefore] at unclosed
    exact unclosed (List.mem_append_left more ending)

/-- A value has no row time in it, and none reaches into it. -/
theorem time?_tagged {inner : List Char} (isValue : IsValue inner) (rest : List Char) :
    time? (tagged inner rest) = time? rest := by
  have skipped (before : List Char) (unclosed : '>' ∉ before) :
      time? (before ++ '<' :: '/' :: 'v' :: '>' :: rest) = time? rest := by
    induction before with
    | nil =>
        rw [List.nil_append, time?_cons_of_ne (by decide), time?_cons_of_ne (by decide),
          time?_cons_of_ne (by decide), time?_cons_of_ne (by decide)]
    | cons first before ih =>
        rw [List.mem_cons, not_or] at unclosed
        have missing : timeHere? (first :: before ++ '<' :: '/' :: 'v' :: '>' :: rest) = none :=
          timeHere?_append_tag (List.not_mem_cons_of_ne_of_not_mem unclosed.1 unclosed.2) _
        rw [List.cons_append] at missing ⊢
        rw [time?_cons, missing, Option.none_or, ih unclosed.2]
  rw [tagged_eq, time?_cons_of_ne (by decide), time?_cons_of_ne (by decide),
    time?_cons_of_ne (by decide), skipped inner (greaterThan_not_mem isValue)]

/-- **Texts that are alike have the same row time.** -/
theorem Alike.time?_eq {text other : List Char} (alike : Alike text other) :
    time? text = time? other := by
  induction alike with
  | nil => rfl
  | value isValue isOther _ ih => rw [time?_tagged isValue, time?_tagged isOther, ih]
  | @character first rest further others ih =>
      have found {text other digits : List Char} (alike : Alike text other)
          (found : timeHere? text = some digits) : timeHere? other = some digits := by
        obtain ⟨isTime, rest, rfl⟩ := timeHere?_eq_some_iff.mp found
        obtain ⟨further, rfl, _⟩ := alike.exists_of_append (lessThan_not_mem_timed isTime)
        exact timeHere?_eq_some_iff.mpr ⟨isTime, further, rfl⟩
      have both := Alike.character first others
      have here : timeHere? (first :: rest) = timeHere? (first :: further) :=
        Option.ext fun digits => ⟨found both, found both.symm⟩
      rw [time?_cons, time?_cons, here, ih]

end MainsCharts.Dump
