import MainsCharts.Proofs.Color.Reading
import MainsCharts.Proofs.Element.Fields
import MainsCharts.Proofs.Numeral.Shape

/-!
# The fields of what is drawn

A line, a rule and a tick are written as what is drawn, its color behind it, and then the fields
that are given: for a line and a rule the legend and the flags, for a tick the height and the
legend.  A field that is left out leaves an empty one when another follows it (`legendFields`,
`heightFields`).

The legend is the only free text among them and the only field that is escaped, so it makes and
takes no separator, unless it ends in a backslash.  Name and color stand in one field, but no name
has the number sign of a color in it, so both can be told (`colored?_append`).
-/

namespace MainsCharts

set_option autoImplicit false

open Numeral Text

/-! ## Escaped texts -/

namespace Text

/-- A text with colons in place of the escaped ones. -/
def unescapeColons : List Char → List Char
  | [] => []
  | '\\' :: ':' :: rest => ':' :: unescapeColons rest
  | character :: rest => character :: unescapeColons rest

/-- **An escaped text is read back**, whatever colons and backslashes are in it. -/
theorem unescapeColons_escapeColons (text : List Char) :
    unescapeColons (escapeColons text) = text := by
  induction text with
  | nil => rfl
  | cons character text ih =>
      by_cases colon : character = ':'
      · subst colon
        rw [escapeColons, unescapeColons, ih]
      · rw [escapeColons_cons, escapeColon, if_neg colon, List.singleton_append, unescapeColons, ih]
        -- A backslash of the text meets no colon, as each has a backslash of its own before it.
        rintro rest rfl split
        cases text with
        | nil => exact absurd split.symm (List.cons_ne_nil _ _)
        | cons next text =>
            have start := head?_escapeColons_append (List.cons_ne_nil next text) []
            rw [List.append_nil, split] at start
            exact start rfl

/-- A text that needs no escaping ends at its separator. -/
theorem fieldsOf_plain {field : List Char} (clean : ':' ∉ field) (ends : ¬ EndsInBackslash field)
    (rest : List Char) : fieldsOf (field ++ ':' :: rest) = field :: fieldsOf rest := by
  have read := fieldsOf_separated rest ends
  rwa [escapeColons_eq_self_iff.mpr clean] at read

/-- An escaped text without anything behind it is one field. -/
theorem fieldsOf_escapeColons (field : List Char) : fieldsOf (escapeColons field) = [field] := by
  have read := fieldsOf_written_singleton field
  rwa [written, List.map_singleton, List.intercalate_singleton] at read

end Text

namespace Element

variable {name : String} {legend : Option String} {flags : List String} {height : Option Float}

/-! ## Behind the color -/

/-- The fields behind the color of a line or a rule. -/
def legendFields : Option String → List String → List String
  | none, [] => []
  | legend, flags => legend.getD "" :: flags

/-- The fields behind the color of a tick. -/
def heightFields : Option Float → Option String → List String
  | none, none => []
  | some value, none => [shortestText value]
  | height, some text => [height.elim "" shortestText, text]

/-- Whether a legend does not end in a backslash. -/
def IsClosed (legend : Option String) : Prop :=
  ∀ text ∈ legend, ¬ EndsInBackslash text.toList

theorem toList_flagFields_cons (flag : String) (flags : List String) :
    (flagFields (flag :: flags)).toList = ':' :: (flag.toList ++ (flagFields flags).toList) := by
  simp [flagFields]

/-- A field and the flags behind it. -/
theorem fieldsOf_flagFields {first : List Char} (ends : ¬ EndsInBackslash first)
    (clean : ∀ flag ∈ flags, IsClean flag) :
    fieldsOf (escapeColons first ++ (flagFields flags).toList) =
      first :: flags.map String.toList := by
  induction flags generalizing first with
  | nil =>
      have nothing : (flagFields []).toList = [] := rfl
      rw [nothing, List.append_nil, fieldsOf_escapeColons, List.map_nil]
  | cons flag flags ih =>
      obtain ⟨isClean, others⟩ := List.forall_mem_cons.mp clean
      have further := ih (not_endsInBackslash isClean.2) others
      rw [escapeColons_eq_self_iff.mpr isClean.1] at further
      rw [toList_flagFields_cons, fieldsOf_separated _ ends, further, List.map_cons]

section Head

variable {head : List Char} (plain : ':' ∉ head) (ends : ¬ EndsInBackslash head)
include plain

/-- What is drawn alone is one field. -/
theorem fieldsOf_head : fieldsOf head = [head] := by
  have read := fieldsOf_escapeColons head
  rwa [escapeColons_eq_self_iff.mpr plain] at read

include ends

theorem fieldsOf_lineFields (closed : IsClosed legend) (clean : ∀ flag ∈ flags, IsClean flag) :
    fieldsOf (head ++ (lineFields legend flags).toList) =
      head :: (legendFields legend flags).map String.toList := by
  cases legend with
  | some text =>
      have written : (lineFields (some text) flags).toList =
          ':' :: (escapeColons text.toList ++ (flagFields flags).toList) := by
        simp [lineFields, field]
      rw [written, fieldsOf_plain plain ends, fieldsOf_flagFields (closed text rfl) clean]
      rfl
  | none =>
      cases flags with
      | nil =>
          have nothing : (lineFields none []).toList = [] := rfl
          rw [nothing, List.append_nil, fieldsOf_head plain]
          rfl
      | cons flag flags =>
          have written : (lineFields none (flag :: flags)).toList =
              ':' :: (escapeColons [] ++ (flagFields (flag :: flags)).toList) := by
            simp [lineFields, escapeColons]
          have empty : ¬ EndsInBackslash [] := not_endsInBackslash List.not_mem_nil
          rw [written, fieldsOf_plain plain ends, fieldsOf_flagFields empty clean]
          rfl

theorem fieldsOf_tickFields (numeral : ∀ value ∈ height, IsClean (shortestText value)) :
    fieldsOf (head ++ (tickFields height legend).toList) =
      head :: (heightFields height legend).map String.toList := by
  cases legend with
  | none =>
      cases height with
      | none =>
          have nothing : (tickFields none none).toList = [] := rfl
          rw [nothing, List.append_nil, fieldsOf_head plain]
          rfl
      | some value =>
          have written :
              (tickFields (some value) none).toList = ':' :: (shortestText value).toList := by
            simp [tickFields]
          rw [written, fieldsOf_plain plain ends, fieldsOf_head (numeral value rfl).1]
          rfl
  | some text =>
      have written : (tickFields height (some text)).toList =
          ':' :: ((height.elim "" shortestText).toList ++ ':' :: escapeColons text.toList) := by
        cases height <;> simp [tickFields, field]
      have isClean : IsClean (height.elim "" shortestText) := by
        cases height with
        | none => exact ⟨by decide, by decide⟩
        | some value => exact numeral value rfl
      rw [written, fieldsOf_plain plain ends,
        fieldsOf_plain isClean.1 (not_endsInBackslash isClean.2), fieldsOf_escapeColons]
      cases height <;> rfl

end Head

/-! ## In front of the color -/

/-- Whether a text has no colon, backslash or number sign in it. -/
def IsBare (text : String) : Prop :=
  IsClean text ∧ '#' ∉ text.toList

/-- A color is written as a number sign and digits. -/
theorem exists_toList_text (color : Color) :
    ∃ digits, color.text.toList = '#' :: digits ∧ ∀ digit ∈ digits, digit ∈ Color.hexAlphabet := by
  obtain ⟨digits, split, -, hexadecimal⟩ := Color.exists_read_iff.mp ⟨color, Color.read_text color⟩
  exact ⟨digits, split, hexadecimal⟩

theorem isClean_append_color {drawn : String} (clean : IsClean drawn) (color : Color) :
    IsClean (drawn ++ color.text) := by
  obtain ⟨digits, split, hexadecimal⟩ := exists_toList_text color
  have foreign {character : Char} (notSign : character ≠ '#')
      (notDigit : character ∉ Color.hexAlphabet) (missing : character ∉ drawn.toList) :
      character ∉ (drawn ++ color.text).toList := by
    rw [String.toList_append, split, List.mem_append, List.mem_cons]
    rintro (before | sign | digit)
    · exact missing before
    · exact notSign sign
    · exact notDigit (hexadecimal character digit)
  exact ⟨foreign (by decide) (by decide) clean.1, foreign (by decide) (by decide) clean.2⟩

/-- The numeral of a double is bare, also when the double has no digits. -/
theorem isBare_shortestText (value : Float) : IsBare (shortestText value) := by
  have bare {text : List Char} (characters : ∀ character ∈ text, character ≠ ':' ∧
      character ≠ '\\' ∧ character ≠ '#') : IsBare (String.ofList text) := by
    rw [IsBare, IsClean, String.toList_ofList]
    exact ⟨⟨fun member => (characters _ member).1 rfl, fun member => (characters _ member).2.1 rfl⟩,
      fun member => (characters _ member).2.2 rfl⟩
  refine bare ?_
  rcases isPlain_shortest value with shaped | missing | ⟨sign, infinite⟩
  · intro character member
    have isNumeral := isNumeralCharacter_of_isPlain shaped character member
    refine ⟨?_, ?_, ?_⟩ <;>
    · rintro rfl
      exact absurd isNumeral (by decide)
  · rw [shortest, numeral, missing]
    simp
  · rw [shortest, numeral, infinite]
    cases sign <;> simp [signText]

/-- What stands in front of a color, and the color. -/
def colored? (field : String) : Option (String × Color) :=
  (Color.ofDigits? (field.toList.dropWhile (· ≠ '#'))).map fun color =>
    (String.ofList (field.toList.takeWhile (· ≠ '#')), color)

/-- **What is drawn and its color** can be told from one field. -/
theorem colored?_append {drawn : String} (unsigned : '#' ∉ drawn.toList) (color : Color) :
    colored? (drawn ++ color.text) = some (drawn, color) := by
  obtain ⟨digits, split, -⟩ := exists_toList_text color
  have passes : ∀ character ∈ drawn.toList, decide (character ≠ '#') = true := by
    intro character member
    rw [decide_eq_true_iff]
    rintro rfl
    exact unsigned member
  have read : Color.ofDigits? ('#' :: digits) = some color := by
    rw [← split]
    exact Color.read_eq_ok_iff_ofDigits?.mp (Color.read_text color)
  rw [colored?, String.toList_append, split, List.dropWhile_append_of_pos passes,
    List.takeWhile_append_of_pos passes, List.dropWhile_cons_of_neg (by simp),
    List.takeWhile_cons_of_neg (by simp), List.append_nil, String.ofList_toList, read,
    Option.map_some]

/-! ## Drawn elements -/

/-- An element that is written as an opening, what is drawn with its color, and further fields. -/
theorem fieldsOf_opened {element : Element} {opening drawn behind : String} {color : Color}
    {fields : List String}
    (written : element.text.toList =
      opening.toList ++ ':' :: (drawn.toList ++ (color.text.toList ++ behind.toList)))
    (opens : IsClean opening) (clean : IsClean drawn)
    (further : ∀ head : List Char, ':' ∉ head → ¬ EndsInBackslash head →
      fieldsOf (head ++ behind.toList) = head :: fields.map String.toList) :
    fieldsOf element.text.toList =
      (opening :: (drawn ++ color.text) :: fields).map String.toList := by
  have colored := isClean_append_color clean color
  rw [written, fieldsOf_plain opens.1 (not_endsInBackslash opens.2), ← List.append_assoc,
    ← String.toList_append, further _ colored.1 (not_endsInBackslash colored.2), List.map_cons,
    List.map_cons]

theorem fieldsOf_comment (content : String) :
    fieldsOf (text (.comment content)).toList = ["COMMENT", content].map String.toList := by
  have split : (text (.comment content)).toList =
      "COMMENT".toList ++ ':' :: escapeColons content.toList := by
    simp [text, field]
  rw [split, fieldsOf_plain (by decide) (by decide), fieldsOf_escapeColons]
  rfl

theorem fieldsOf_line (bare : IsBare name) (closed : IsClosed legend)
    (clean : ∀ flag ∈ flags, IsClean flag) (width : UInt8) (color : Color) :
    fieldsOf (text (.line width name color legend flags)).toList =
      (("LINE" ++ Nat.repr width.toNat) :: (name ++ color.text) :: legendFields legend flags).map
        String.toList := by
  have opens : IsClean ("LINE" ++ Nat.repr width.toNat) := by
    have foreign {character : Char} (notDigit : character.isDigit = false)
        (missing : character ∉ "LINE".toList) :
        character ∉ ("LINE" ++ Nat.repr width.toNat).toList := by
      rw [String.toList_append, List.mem_append]
      rintro (letter | digit)
      · exact missing letter
      · exact Bool.noConfusion (notDigit.symm.trans (isDigit_of_mem_repr digit))
    exact ⟨foreign rfl (by decide), foreign rfl (by decide)⟩
  exact fieldsOf_opened (by simp [text]) opens bare.1 fun _ plain ends =>
    fieldsOf_lineFields plain ends closed clean

theorem fieldsOf_rule (closed : IsClosed legend) (clean : ∀ flag ∈ flags, IsClean flag)
    (value : Float) (color : Color) :
    fieldsOf (text (.rule value color legend flags)).toList =
      ("HRULE" :: (shortestText value ++ color.text) :: legendFields legend flags).map
        String.toList :=
  fieldsOf_opened (by simp [text]) ⟨by decide, by decide⟩ (isBare_shortestText value).1
    fun _ plain ends => fieldsOf_lineFields plain ends closed clean

theorem fieldsOf_tick (bare : IsBare name) (color : Color) (height : Option Float)
    (legend : Option String) :
    fieldsOf (text (.tick name color height legend)).toList =
      ("TICK" :: (name ++ color.text) :: heightFields height legend).map String.toList :=
  fieldsOf_opened (by simp [text]) ⟨by decide, by decide⟩ bare.1 fun _ plain ends =>
    fieldsOf_tickFields plain ends fun value _ => (isBare_shortestText value).1

/-- **What is drawn is read back field by field**: what it is, its color, and the legend and the
flags or the height that are given, each as it was.  Any text can be escaped and read back, and a
comment is one field whatever is in it. -/
theorem drawn_reads :
    (∀ text : String, unescapeColons (field text).toList = text.toList) ∧
    (∀ content, fieldsOf (text (.comment content)).toList =
      ["COMMENT", content].map String.toList) ∧
    ∀ (name : String) (legend : Option String) (flags : List String), IsBare name →
      IsClosed legend → (∀ flag ∈ flags, flag ≠ "" ∧ IsClean flag) →
      ∀ (width : UInt8) (color : Color) (value : Float) (height : Option Float),
        fieldsOf (text (.line width name color legend flags)).toList =
          (("LINE" ++ Nat.repr width.toNat) :: (name ++ color.text) ::
            legendFields legend flags).map String.toList ∧
        fieldsOf (text (.rule value color legend flags)).toList =
          ("HRULE" :: (shortestText value ++ color.text) :: legendFields legend flags).map
            String.toList ∧
        fieldsOf (text (.tick name color height legend)).toList =
          ("TICK" :: (name ++ color.text) :: heightFields height legend).map String.toList ∧
        colored? (name ++ color.text) = some (name, color) ∧
        colored? (shortestText value ++ color.text) = some (shortestText value, color) := by
  refine ⟨?_, fieldsOf_comment, ?_⟩
  · intro text
    rw [field, String.toList_ofList, unescapeColons_escapeColons]
  · intro name legend flags bare closed filled width color value height
    have clean : ∀ flag ∈ flags, IsClean flag := fun flag member => (filled flag member).2
    exact ⟨fieldsOf_line bare closed clean width color, fieldsOf_rule closed clean value color,
      fieldsOf_tick bare color height legend, colored?_append bare.2 color,
      colored?_append (isBare_shortestText value).2 color⟩

/-- A dashed line on top of another, with colons and backslashes in its legend. -/
theorem drawn_reads_dashed :
    IsBare "r_avg" ∧ IsClosed (some "12:00 \\: up\\down") ∧
    (∀ flag ∈ ["STACK", "dashes=1,2"], flag ≠ "" ∧ IsClean flag) ∧
    fieldsOf (text (.line 2 "r_avg" (Color.opaqueOf 0 128 255) (some "12:00 \\: up\\down")
      ["STACK", "dashes=1,2"])).toList =
      ["LINE2", "r_avg#0080FF", "12:00 \\: up\\down", "STACK", "dashes=1,2"].map String.toList := by
  have bare : IsBare "r_avg" := ⟨⟨by decide, by decide⟩, by decide⟩
  have closed : IsClosed (some "12:00 \\: up\\down") := by
    rintro _ ⟨⟩
    decide
  have filled : ∀ flag ∈ ["STACK", "dashes=1,2"], flag ≠ "" ∧ IsClean flag := by
    simp [IsClean]
  have reads := drawn_reads.2.2 "r_avg" _ _ bare closed filled 2 (Color.opaqueOf 0 128 255) 0 none
  have color : (Color.opaqueOf 0 128 255).text = "#0080FF" := by decide
  refine ⟨bare, closed, filled, reads.1.trans ?_⟩
  rw [color]
  decide

end Element

end MainsCharts
