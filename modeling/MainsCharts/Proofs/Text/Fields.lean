import MainsCharts.Text.Quoting

/-!
# Reading fields

A reader cuts a text at its colons, except where a backslash stands immediately before one;
such a colon belongs to the field, without the backslash.  Every text is what its own
fields are written as (`written_fieldsOf`), so nothing is lost in reading.

The converse holds but for one thing: a field that ends in a backslash takes the separator
behind it for a colon of its own, and runs into the next field.  So a list of fields is read
from a text exactly when it is written as that text and none of the fields but the last ends
in a backslash (`fieldsOf_eq_iff`).
-/

namespace MainsCharts.Text

set_option autoImplicit false

/-- Fields with a character before the first one. -/
def prependToFirst (character : Char) : List (List Char) → List (List Char)
  | [] => [[character]]
  | first :: others => (character :: first) :: others

/-- The fields of a text. -/
def fieldsOf : List Char → List (List Char)
  | [] => [[]]
  | '\\' :: ':' :: rest => prependToFirst ':' (fieldsOf rest)
  | ':' :: rest => [] :: fieldsOf rest
  | character :: rest => prependToFirst character (fieldsOf rest)

/-- Fields as they are written, with colons between them. -/
def written (fields : List (List Char)) : List Char :=
  [':'].intercalate (fields.map escapeColons)

/-- Whether a field ends in a backslash. -/
def EndsInBackslash (field : List Char) : Prop :=
  field.getLast? = some '\\'

instance (field : List Char) : Decidable (EndsInBackslash field) :=
  inferInstanceAs (Decidable (_ = _))

theorem not_endsInBackslash {field : List Char} (clean : '\\' ∉ field) :
    ¬ EndsInBackslash field := by
  intro ends
  exact clean (List.mem_of_getLast? ends)

/-- A field that starts with other text ends in a backslash when its own end does. -/
theorem endsInBackslash_append_iff {first second : List Char} (ends : ¬ EndsInBackslash first) :
    EndsInBackslash (first ++ second) ↔ EndsInBackslash second := by
  rcases List.eq_nil_or_concat second with rfl | ⟨start, last, rfl⟩
  · rw [List.append_nil]
    exact iff_of_false ends nofun
  · rw [EndsInBackslash, EndsInBackslash, List.concat_eq_append, List.getLast?_append,
      List.getLast?_concat, Option.some_or]

/-! ## Escaped colons -/

/-- A character of a field as it is written. -/
def escapeColon (character : Char) : List Char :=
  if character = ':' then ['\\', ':'] else [character]

theorem escapeColons_cons (character : Char) (rest : List Char) :
    escapeColons (character :: rest) = escapeColon character ++ escapeColons rest := by
  unfold escapeColon
  split
  · rename_i same
    rw [same]
    rfl
  · rename_i other
    rw [escapeColons]
    · rfl
    · exact other

theorem escapeColons_append (first second : List Char) :
    escapeColons (first ++ second) = escapeColons first ++ escapeColons second := by
  induction first with
  | nil => rfl
  | cons character first ih =>
      rw [List.cons_append, escapeColons_cons, escapeColons_cons, ih, List.append_assoc]

theorem length_escapeColons (text : List Char) :
    (escapeColons text).length = text.length + text.count ':' := by
  induction text with
  | nil => rfl
  | cons character text ih =>
      rw [escapeColons_cons, List.length_append, ih, List.length_cons, List.count_cons, escapeColon]
      split
      · simp [*]
        omega
      · simp [*]
        omega

/-- A text is written as it is exactly when there is no colon in it. -/
theorem escapeColons_eq_self_iff {text : List Char} : escapeColons text = text ↔ ':' ∉ text := by
  constructor
  · intro same
    have lengths := length_escapeColons text
    rw [same] at lengths
    exact List.count_eq_zero.mp (by omega)
  · intro clean
    induction text with
    | nil => rfl
    | cons character text ih =>
        rw [List.mem_cons, not_or] at clean
        rw [escapeColons_cons, escapeColon, if_neg (Ne.symm clean.1), ih clean.2]
        rfl

/-! ## From a text to its fields and back -/

@[simp]
theorem fieldsOf_nil : fieldsOf [] = [[]] := rfl

@[simp]
theorem fieldsOf_escaped (rest : List Char) :
    fieldsOf ('\\' :: ':' :: rest) = prependToFirst ':' (fieldsOf rest) := rfl

@[simp]
theorem fieldsOf_colon (rest : List Char) : fieldsOf (':' :: rest) = [] :: fieldsOf rest := rfl

theorem fieldsOf_cons {character : Char} {rest : List Char}
    (notEscape : ∀ further, character = '\\' → rest = ':' :: further → False)
    (notColon : character ≠ ':') :
    fieldsOf (character :: rest) = prependToFirst character (fieldsOf rest) := by
  rw [fieldsOf]
  · exact notEscape
  · exact notColon

theorem fieldsOf_ne_nil (text : List Char) : fieldsOf text ≠ [] := by
  have prepended (character : Char) (fields : List (List Char)) :
      prependToFirst character fields ≠ [] := by
    cases fields <;> exact List.cons_ne_nil _ _
  unfold fieldsOf
  split
  · exact List.cons_ne_nil _ _
  · exact prepended _ _
  · exact List.cons_ne_nil _ _
  · exact prepended _ _

theorem written_cons (first : List Char) {others : List (List Char)} (further : others ≠ []) :
    written (first :: others) = escapeColons first ++ ':' :: written others := by
  obtain ⟨second, others, rfl⟩ := List.exists_cons_of_ne_nil further
  rw [written, List.map_cons, List.map_cons, List.intercalate_cons_cons, written, List.map_cons,
    List.append_assoc, List.singleton_append]

theorem written_prependToFirst (character : Char) {fields : List (List Char)}
    (nonempty : fields ≠ []) :
    written (prependToFirst character fields) = escapeColon character ++ written fields := by
  match fields, nonempty with
  | [last], _ =>
      rw [prependToFirst, written, written, List.map_singleton, List.map_singleton,
        List.intercalate_singleton, List.intercalate_singleton, escapeColons_cons]
  | first :: second :: others, _ =>
      rw [prependToFirst, written_cons _ (List.cons_ne_nil _ _),
        written_cons _ (List.cons_ne_nil _ _), escapeColons_cons, List.append_assoc]

/-- **A text is what its fields are written as.** -/
theorem written_fieldsOf (text : List Char) : written (fieldsOf text) = text := by
  induction text using fieldsOf.induct with
  | case1 => rfl
  | case2 rest ih =>
      rw [fieldsOf_escaped, written_prependToFirst _ (fieldsOf_ne_nil rest), ih]
      rfl
  | case3 rest ih =>
      rw [fieldsOf_colon, written_cons _ (fieldsOf_ne_nil rest), ih]
      rfl
  | case4 character rest notEscape notColon ih =>
      rw [fieldsOf_cons notEscape notColon, written_prependToFirst _ (fieldsOf_ne_nil rest), ih,
        escapeColon, if_neg notColon, List.singleton_append]

/-! ## From fields to a text and back -/

/-- A character in front of a text that does not take it for a mark of its own. -/
theorem fieldsOf_escapeColon_append (character : Char) (rest : List Char)
    (apart : character = '\\' → rest.head? ≠ some ':') :
    fieldsOf (escapeColon character ++ rest) = prependToFirst character (fieldsOf rest) := by
  unfold escapeColon
  split
  · rename_i same
    rw [same]
    rfl
  · rename_i notColon
    refine fieldsOf_cons ?_ notColon
    rintro further rfl rfl
    exact apart rfl rfl

/-- A written field does not start with a colon. -/
theorem head?_escapeColons_append {field : List Char} (nonempty : field ≠ []) (rest : List Char) :
    (escapeColons field ++ rest).head? ≠ some ':' := by
  obtain ⟨character, field, rfl⟩ := List.exists_cons_of_ne_nil nonempty
  rw [escapeColons_cons, escapeColon]
  split
  · simp
  · simpa using ‹character ≠ ':'›

/-- A written field in front of a text, unless a backslash at its end meets a colon. -/
theorem fieldsOf_escapeColons_append (field rest : List Char)
    (apart : EndsInBackslash field → rest.head? ≠ some ':') :
    fieldsOf (escapeColons field ++ rest) = field.foldr prependToFirst (fieldsOf rest) := by
  induction field with
  | nil => rfl
  | cons character field ih =>
      rw [escapeColons_cons, List.append_assoc, fieldsOf_escapeColon_append, ih, List.foldr_cons]
      · intro ends
        have nonempty : field ≠ [] := by
          rintro rfl
          exact nomatch ends
        exact apart (by rwa [EndsInBackslash, List.getLast?_cons_of_ne_nil nonempty])
      · rintro rfl
        by_cases last : field = []
        · subst last
          exact apart rfl
        · exact head?_escapeColons_append last rest

theorem foldr_prependToFirst (field first : List Char) (others : List (List Char)) :
    field.foldr prependToFirst (first :: others) = (field ++ first) :: others := by
  induction field with
  | nil => rfl
  | cons character field ih =>
      rw [List.foldr_cons, ih]
      rfl

/-- A field that does not end in a backslash ends at its separator. -/
theorem fieldsOf_separated {field : List Char} (rest : List Char)
    (ends : ¬ EndsInBackslash field) :
    fieldsOf (escapeColons field ++ ':' :: rest) = field :: fieldsOf rest := by
  rw [fieldsOf_escapeColons_append field _ fun contrary => absurd contrary ends,
    fieldsOf_colon, foldr_prependToFirst, List.append_nil]

/-- A field that ends in a backslash runs into the next one. -/
theorem length_fieldsOf_joined {field : List Char} (rest : List Char)
    (ends : EndsInBackslash field) :
    (fieldsOf (escapeColons field ++ ':' :: rest)).length = (fieldsOf rest).length := by
  obtain ⟨start, rfl⟩ := List.getLast?_eq_some_iff.mp ends
  obtain ⟨first, others, same⟩ := List.exists_cons_of_ne_nil (fieldsOf_ne_nil rest)
  have split : escapeColons (start ++ ['\\']) ++ ':' :: rest =
      escapeColons start ++ '\\' :: ':' :: rest := by
    rw [escapeColons_append, List.append_assoc]
    rfl
  rw [split, fieldsOf_escapeColons_append start _ fun _ => by simp, fieldsOf_escaped, same,
    prependToFirst, foldr_prependToFirst]
  rfl

theorem fieldsOf_written_singleton (last : List Char) : fieldsOf (written [last]) = [last] := by
  have read := fieldsOf_escapeColons_append last [] fun _ => by simp
  rw [List.append_nil, fieldsOf_nil, foldr_prependToFirst, List.append_nil] at read
  rwa [written, List.map_singleton, List.intercalate_singleton]

/-- Fields may run into one another, but are not split. -/
theorem length_fieldsOf_written_le : ∀ (first : List Char) (others : List (List Char)),
    (fieldsOf (written (first :: others))).length ≤ others.length + 1
  | first, [] => by
      rw [fieldsOf_written_singleton]
      exact Nat.le_refl 1
  | first, second :: others => by
      have fewer := length_fieldsOf_written_le second others
      rw [written_cons first (List.cons_ne_nil _ _), List.length_cons]
      by_cases ends : EndsInBackslash first
      · rw [length_fieldsOf_joined _ ends]
        omega
      · rw [fieldsOf_separated _ ends, List.length_cons]
        omega

/-- Fields are read back exactly when none of them runs into the next. -/
theorem fieldsOf_written_iff : ∀ (first : List Char) (others : List (List Char)),
    fieldsOf (written (first :: others)) = first :: others ↔
      ∀ field ∈ (first :: others).dropLast, ¬ EndsInBackslash field
  | first, [] => by
      rw [fieldsOf_written_singleton]
      exact iff_of_true rfl (List.forall_mem_nil _)
  | first, second :: others => by
      rw [written_cons first (List.cons_ne_nil _ _), List.dropLast_cons_cons, List.forall_mem_cons,
        ← fieldsOf_written_iff second others]
      by_cases ends : EndsInBackslash first
      · have fewer := length_fieldsOf_written_le second others
        refine iff_of_false ?_ fun both => both.1 ends
        intro same
        have lengths := length_fieldsOf_joined (written (second :: others)) ends
        rw [same, List.length_cons, List.length_cons] at lengths
        omega
      · rw [fieldsOf_separated _ ends, List.cons.injEq]
        exact and_congr_left' (iff_of_true rfl ends)

/-- **The fields of a text** are those that it is written from, none of them but the last with
a backslash at its end. -/
theorem fieldsOf_eq_iff {text : List Char} {fields : List (List Char)} (nonempty : fields ≠ []) :
    fieldsOf text = fields ↔
      text = written fields ∧ ∀ field ∈ fields.dropLast, ¬ EndsInBackslash field := by
  obtain ⟨first, others, rfl⟩ := List.exists_cons_of_ne_nil nonempty
  rw [← fieldsOf_written_iff]
  constructor
  · intro same
    have text_eq := written_fieldsOf text
    rw [same] at text_eq
    exact ⟨text_eq.symm, by rw [text_eq, same]⟩
  · rintro ⟨rfl, same⟩
    exact same

end MainsCharts.Text
