import MainsCharts.Element
import MainsCharts.Proofs.Text.Fields

/-!
# The fields of a stored series

A stored series is written with its colons escaped in the path of the database file and
nowhere else.  So its text reads back as the fields that it was made of exactly when the
other texts have no colon in them, and none of the texts in front of a separator ends in a
backslash (`fieldsOf_stored_iff`).
-/

namespace MainsCharts.Element

set_option autoImplicit false

open Text

/-- Whether a text has neither a colon nor a backslash in it. -/
def IsClean (text : String) : Prop :=
  ':' ∉ text.toList ∧ '\\' ∉ text.toList

/-- What a stored series was made of, field by field. -/
def storedFields (name path source : String) (consolidation : Consolidation)
    (span : Option FetchSpan) : List String :=
  ["DEF", name ++ "=" ++ path, source, consolidation.token] ++
    match span with
    | none => []
    | some span => ["start=" ++ span.start, "end=" ++ span.stop]

/-- Whether the times of a span can stand in fields without being escaped. -/
def SpanReadable (span : FetchSpan) : Prop :=
  ':' ∉ span.start.toList ∧ ¬ EndsInBackslash span.start.toList ∧ ':' ∉ span.stop.toList

variable {name path source : String} {consolidation : Consolidation} {span : Option FetchSpan}

theorem isClean_token (consolidation : Consolidation) : IsClean consolidation.token := by
  cases consolidation <;> exact ⟨by decide, by decide⟩

/-- Two texts with something between them are written as they are when each of them is. -/
theorem escaped_pair_iff (first between second : List Char) :
    first ++ between ++ second = escapeColons first ++ between ++ escapeColons second ↔
      ':' ∉ first ∧ ':' ∉ second := by
  rw [← escapeColons_eq_self_iff, ← escapeColons_eq_self_iff]
  constructor
  · intro same
    have lengths := congrArg List.length same
    simp only [List.length_append, length_escapeColons] at lengths
    rw [escapeColons_eq_self_iff, escapeColons_eq_self_iff, ← List.count_eq_zero,
      ← List.count_eq_zero]
    omega
  · rintro ⟨firstSame, secondSame⟩
    rw [firstSame, secondSame]

theorem text_eq_written_iff (cleanName : IsClean name) (cleanSource : IsClean source) :
    (stored name path source consolidation span).text.toList =
        written ((storedFields name path source consolidation span).map String.toList) ↔
      ∀ times ∈ span, ':' ∉ times.start.toList ∧ ':' ∉ times.stop.toList := by
  have nameSame := escapeColons_eq_self_iff.mpr cleanName.1
  have sourceSame := escapeColons_eq_self_iff.mpr cleanSource.1
  have tokenSame := escapeColons_eq_self_iff.mpr (isClean_token consolidation).1
  have nothing : escapeColons [] = [] := rfl
  cases span with
  | none =>
      simp [text, storedFields, spanFields, written, field, escapeColons_append, escapeColons_cons,
        escapeColon, nothing, nameSame, sourceSame, tokenSame]
  | some times =>
      have pair := escaped_pair_iff times.start.toList ":end=".toList times.stop.toList
      simpa [text, storedFields, spanFields, written, field, escapeColons_append,
        escapeColons_cons, escapeColon, nothing, nameSame, sourceSame, tokenSame] using pair

/-- The field of a path ends in a backslash when the path does. -/
theorem endsInBackslash_definition_iff (name path : String) :
    EndsInBackslash (name ++ "=" ++ path).toList ↔ EndsInBackslash path.toList := by
  have equals : ¬ EndsInBackslash (name ++ "=").toList := by
    rw [EndsInBackslash, String.toList_append]
    simp
  rw [String.toList_append, endsInBackslash_append_iff equals]

/-- The field of a start ends in a backslash when the start does. -/
theorem endsInBackslash_start_iff (start : String) :
    EndsInBackslash ("start=" ++ start).toList ↔ EndsInBackslash start.toList := by
  rw [String.toList_append, endsInBackslash_append_iff (by decide)]

/-- Which of the fields in front of a separator can end in a backslash. -/
theorem endsInBackslash_storedFields_iff (cleanSource : IsClean source) :
    (∀ field ∈ ((storedFields name path source consolidation span).map String.toList).dropLast,
        ¬ EndsInBackslash field) ↔
      ¬ EndsInBackslash path.toList ∧ ∀ times ∈ span, ¬ EndsInBackslash times.start.toList := by
  have definition : ¬ EndsInBackslash ['D', 'E', 'F'] := by decide
  have sourceEnd := not_endsInBackslash cleanSource.2
  have tokenEnd := not_endsInBackslash (isClean_token consolidation).2
  have pathEnd := endsInBackslash_definition_iff name path
  cases span with
  | none =>
      have separated : ((storedFields name path source consolidation none).map
          String.toList).dropLast = ["DEF", name ++ "=" ++ path, source].map String.toList := rfl
      simp only [separated, List.map_cons, List.map_nil, List.forall_mem_cons, pathEnd]
      simp [definition, sourceEnd]
  | some times =>
      have startEnd := endsInBackslash_start_iff times.start
      have separated : ((storedFields name path source consolidation (some times)).map
          String.toList).dropLast =
          ["DEF", name ++ "=" ++ path, source, consolidation.token, "start=" ++ times.start].map
            String.toList := rfl
      simp only [separated, List.map_cons, List.map_nil, List.forall_mem_cons, pathEnd, startEnd]
      simp [definition, sourceEnd, tokenEnd]

/-- **A stored series reads back as it was made** exactly when its path does not end in a
backslash, and there is no colon in its times nor a backslash at the end of its start. -/
theorem fieldsOf_stored_iff (cleanName : IsClean name) (cleanSource : IsClean source) :
    fieldsOf (stored name path source consolidation span).text.toList =
        (storedFields name path source consolidation span).map String.toList ↔
      ¬ EndsInBackslash path.toList ∧ ∀ times ∈ span, SpanReadable times := by
  have nonempty : (storedFields name path source consolidation span).map String.toList ≠ [] :=
    List.cons_ne_nil _ _
  rw [fieldsOf_eq_iff nonempty, text_eq_written_iff cleanName cleanSource,
    endsInBackslash_storedFields_iff cleanSource]
  constructor
  · rintro ⟨plain, pathEnd, startEnd⟩
    refine ⟨pathEnd, ?_⟩
    intro times member
    exact ⟨(plain times member).1, startEnd times member, (plain times member).2⟩
  · rintro ⟨pathEnd, readable⟩
    refine ⟨?_, pathEnd, fun times member => (readable times member).2.1⟩
    intro times member
    exact ⟨(readable times member).1, (readable times member).2.2⟩

end MainsCharts.Element
