import MainsCharts.Element
import MainsCharts.Proofs.Expression.Reading
import MainsCharts.SeriesNames

/-!
# Reading the arguments of a drawing

The renderer sees a drawing as a list of texts.  A text that declares a series says
by its opening whether the series is stored, derived or a scalar, and gives its name
before the first equals sign; what is behind that sign is an expression, cut at its
commas.  Other texts name a series behind their opening: what is drawn of it, how it
is moved, or that it is reported.

An element says the same without being written: which name it declares and which
names it refers to.  The two views agree (`declaration?_text`, `references_text`) as
long as names are made of letters, digits and underscores.
-/

namespace MainsCharts

set_option autoImplicit false

open Text Expression

/-! ## Texts -/

/-- What a declared name stands for. -/
inductive SeriesKind where
  | stored
  | derived
  | scalar
  deriving DecidableEq

namespace SeriesKind

/-- The opening of a declaration. -/
def opening : SeriesKind → String
  | stored => "DEF:"
  | derived => "CDEF:"
  | scalar => "VDEF:"

/-- The kind of series that a text declares, if it does. -/
def ofText? (text : List Char) : Option SeriesKind :=
  [stored, derived, scalar].find? fun kind => (after? kind.opening.toList text).isSome

end SeriesKind

/-- The name that a text declares, and what it stands for. -/
def declaration? (argument : String) : Option (String × SeriesKind) :=
  (SeriesKind.ofText? argument.toList).bind fun kind =>
    (declaredName? argument).map fun name => (name, kind)

/-- What a series is needed for. -/
inductive Role where
  /-- As an operand, or to draw a line of it. -/
  | operand
  /-- For its samples. -/
  | samples
  /-- For its only value. -/
  | value
  deriving DecidableEq

/-- Whether a kind of series can be used in a role. -/
def Role.admits : Role → SeriesKind → Bool
  | operand, _ => true
  | samples, kind => kind != .scalar
  | value, kind => kind == .scalar

/-- A series that is referred to. -/
structure Reference where
  name : String
  role : Role
  deriving DecidableEq

/-- Whether a token refers to a series: it is neither a number nor an operator. -/
def isReferenceToken (token : String) : Bool :=
  !isNumberToken token && (Operator.ofToken? token).isNone

/-- The series that tokens refer to. -/
def operandReferences (tokens : List String) : List Reference :=
  (tokens.filter isReferenceToken).map (⟨·, .operand⟩)

/-- The series that the tokens of a scalar refer to.  The first is the one that is
reduced. -/
def reductionReferences (tokens : List String) : List Reference :=
  (tokens.take 1).map (⟨·, .samples⟩) ++ operandReferences (tokens.drop 1)

/-- The tokens behind the first equals sign of a text. -/
def programOf (argument : String) : List String :=
  tokensOfText ((argument.toList.dropWhile (· ≠ '=')).drop 1)

/-- The name at the start of a text, which ends before a colon or a color. -/
def leadingName (text : List Char) : String :=
  String.ofList (text.takeWhile fun character => character ≠ ':' && character ≠ '#')

/-- What follows the opening of a line, which contains its width. -/
def afterLine? (text : List Char) : Option (List Char) :=
  (after? "LINE".toList text).bind fun rest => after? [':'] (rest.dropWhile Char.isDigit)

/-- The openings that a name follows, and what the series is needed for. -/
def usages : List (String × Role) :=
  [("SHIFT:", .samples), ("TICK:", .samples), ("GPRINT:", .value), ("PRINT:", .value)]

/-- The series that a text uses without declaring one. -/
def usage? (text : List Char) : Option Reference :=
  ((afterLine? text).map fun rest => ⟨leadingName rest, .operand⟩).or
    (usages.findSome? fun (opening, role) =>
      (after? opening.toList text).map fun rest => ⟨leadingName rest, role⟩)

/-- The series that a text refers to. -/
def references (argument : String) : List Reference :=
  match SeriesKind.ofText? argument.toList with
  | some .stored => []
  | some .derived => operandReferences (programOf argument)
  | some .scalar => reductionReferences (programOf argument)
  | none => (usage? argument.toList).toList

/-- The first letters of the openings. -/
def openingLetters : List Char :=
  ['D', 'C', 'V', 'L', 'S', 'T', 'G', 'P']

/-- A text that starts in another way says nothing of series. -/
theorem unread_of_not_mem_openingLetters {argument : String} {first : Char} {rest : List Char}
    (written : argument.toList = first :: rest) (foreign : first ∉ openingLetters) :
    SeriesKind.ofText? argument.toList = none ∧ references argument = [] := by
  simp only [openingLetters, List.mem_cons, List.not_mem_nil, or_false, not_or] at foreign
  obtain ⟨_, _, _, _, _, _, _, _⟩ := foreign
  have undeclared : SeriesKind.ofText? (first :: rest) = none := by
    simp [SeriesKind.ofText?, SeriesKind.opening, after?, eq_comm, *]
  have unused : usage? (first :: rest) = none := by
    simp [usage?, usages, afterLine?, after?, eq_comm, *]
  rw [references, written, undeclared, unused]
  exact ⟨rfl, rfl⟩

/-! ## Names -/

/-- The characters of names. -/
def isNameCharacter (character : Char) : Bool :=
  character.isAlphanum || character == '_'

/-- Whether a text is made of the characters of names, and has one that is in no
operator. -/
def isName (name : String) : Bool :=
  name.toList.all isNameCharacter && name.toList.any Operator.isOperandCharacter

theorem isNameCharacter_of_mem {name : String} {character : Char} (named : isName name = true)
    (member : character ∈ name.toList) : isNameCharacter character = true := by
  rw [isName, Bool.and_eq_true] at named
  exact List.all_eq_true.mp named.1 character member

/-- A name is no operator. -/
theorem ofToken?_eq_none_of_isName {name : String} (named : isName name = true) :
    Operator.ofToken? name = none := by
  rw [isName, Bool.and_eq_true, List.any_eq_true] at named
  obtain ⟨_, character, member, foreign⟩ := named
  exact Operator.ofToken?_eq_none member foreign

theorem ne_of_isNameCharacter {character other : Char} (plain : isNameCharacter character = true)
    (foreign : isNameCharacter other = false) : character ≠ other := by
  rintro rfl
  rw [plain] at foreign
  exact Bool.noConfusion foreign

/-- A character that is none of names does not occur in a name. -/
theorem not_mem_of_isName {name : String} {character : Char} (named : isName name = true)
    (foreign : isNameCharacter character = false) : character ∉ name.toList := by
  intro member
  exact ne_of_isNameCharacter (isNameCharacter_of_mem named member) foreign rfl

theorem leadingName_append {name : String} {stop : Char} (named : isName name = true)
    (stops : stop = ':' ∨ stop = '#') (rest : List Char) :
    leadingName (name.toList ++ stop :: rest) = name := by
  have passes : ∀ character ∈ name.toList, (character ≠ ':' && character ≠ '#') = true := by
    intro character member
    have plain := isNameCharacter_of_mem named member
    have colon : character ≠ ':' := ne_of_isNameCharacter plain (by decide)
    have color : character ≠ '#' := ne_of_isNameCharacter plain (by decide)
    simp [colon, color]
  have ends : (stop ≠ ':' && stop ≠ '#') = false := by
    rcases stops with rfl | rfl <;> decide
  rw [leadingName, List.takeWhile_append_of_pos passes, List.takeWhile_cons, ends,
    if_neg Bool.false_ne_true, List.append_nil, String.ofList_toList]

/-! ## Elements -/

namespace Element

/-- The name that an element declares, and what it stands for. -/
def declaration? : Element → Option (String × SeriesKind)
  | stored name _ _ _ _ => some (name, .stored)
  | derived name _ => some (name, .derived)
  | scalar name _ => some (name, .scalar)
  | _ => none

/-- The series that an element refers to. -/
def references : Element → List Reference
  | derived _ value => value.names.map (⟨·, .operand⟩)
  | scalar _ value =>
      (value.tokens.take 1).map (⟨·, .samples⟩) ++ value.names.map (⟨·, .operand⟩)
  | shift name _ | tick name _ _ _ => [⟨name, .samples⟩]
  | line _ name _ _ _ => [⟨name, .operand⟩]
  | report name _ | print name _ => [⟨name, .value⟩]
  | _ => []

/-- Whether all names in an element are names, and its expression has one. -/
def isWellNamed : Element → Bool
  | stored name _ _ _ _ | shift name _ | tick name _ _ _ | line _ name _ _ _ | report name _
  | print name _ => isName name
  | derived name value | scalar name value =>
      isName name && (value.names.all isName && !value.names.isEmpty)
  | _ => true

/-! ## Elements as they are written -/

theorem ofText?_text (element : Element) :
    SeriesKind.ofText? element.text.toList = element.declaration?.map Prod.snd := by
  cases element <;>
    simp [text, declaration?, SeriesKind.ofText?, SeriesKind.opening, after?]

/-- A name ends where the equals sign is. -/
theorem takeWhile_append_equals {name : List Char} (clean : '=' ∉ name) (rest : List Char) :
    (name ++ '=' :: rest).takeWhile (· ≠ '=') = name := by
  have passes : ∀ character ∈ name, decide (character ≠ '=') = true := by
    intro character member
    rw [decide_eq_true_iff]
    rintro rfl
    exact clean member
  rw [List.takeWhile_append_of_pos passes, List.takeWhile_cons_of_neg (by simp), List.append_nil]

theorem declaredName?_opened (kind : SeriesKind) {name : String} (clean : '=' ∉ name.toList)
    (rest : String) : declaredName? (kind.opening ++ name ++ "=" ++ rest) = some name := by
  have behind : afterDeclaration? (kind.opening ++ name ++ "=" ++ rest).toList =
      some (name.toList ++ '=' :: rest.toList) := by
    cases kind <;>
      simp [SeriesKind.opening, afterDeclaration?, declarationOpenings, after?]
  have equals : '=' ∈ name.toList ++ '=' :: rest.toList := by simp
  simp only [declaredName?, behind, Option.bind_eq_bind, Option.bind_some, if_pos equals,
    takeWhile_append_equals clean, String.ofList_toList]

/-- **The declaration of an element can be read from its text.** -/
theorem declaration?_text {element : Element} (wellNamed : element.isWellNamed = true) :
    MainsCharts.declaration? element.text = element.declaration? := by
  have declares (kind : SeriesKind) {name : String} (named : isName name = true) (rest : String)
      (written : element.text = kind.opening ++ name ++ "=" ++ rest)
      (kinds : element.declaration? = some (name, kind)) :
      MainsCharts.declaration? element.text = some (name, kind) := by
    rw [MainsCharts.declaration?, ofText?_text, kinds, Option.map_some, Option.bind_some, written,
      declaredName?_opened kind (not_mem_of_isName named rfl), Option.map_some]
  cases element with
  | stored name path source consolidation span =>
      refine declares .stored wellNamed
        (field path ++ ":" ++ source ++ ":" ++ consolidation.token ++ spanFields span) ?_ rfl
      simp only [text, SeriesKind.opening, String.append_assoc]
  | derived name value =>
      rw [isWellNamed, Bool.and_eq_true] at wellNamed
      exact declares .derived wellNamed.1 value.text rfl rfl
  | scalar name value =>
      rw [isWellNamed, Bool.and_eq_true] at wellNamed
      exact declares .scalar wellNamed.1 value.text rfl rfl
  | _ => rw [MainsCharts.declaration?, ofText?_text]; rfl

/-- What stands behind the first equals sign is what was written there. -/
theorem programOf_opened {opening name : String} (clean : '=' ∉ opening.toList)
    (named : isName name = true) (rest : String) :
    programOf (opening ++ name ++ "=" ++ rest) = tokensOfText rest.toList := by
  have passes : ∀ character ∈ opening.toList ++ name.toList, decide (character ≠ '=') = true := by
    intro character member
    rw [decide_eq_true_iff]
    rintro rfl
    rcases List.mem_append.mp member with before | inside
    · exact clean before
    · exact not_mem_of_isName named rfl inside
  have split : (opening ++ name ++ "=" ++ rest).toList =
      (opening.toList ++ name.toList) ++ '=' :: rest.toList := by
    simp
  rw [programOf, split, List.dropWhile_append_of_pos passes, List.dropWhile_cons_of_neg (by simp),
    List.drop_one, List.tail_cons]

/-- The program of an expression that is written behind a name. -/
theorem programOf_text {opening name : String} (clean : '=' ∉ opening.toList) {value : Expression}
    (wellNamed : (isName name && (value.names.all isName && !value.names.isEmpty)) = true) :
    programOf (opening ++ name ++ "=" ++ value.text) = value.tokens := by
  simp only [Bool.and_eq_true, Bool.not_eq_true', List.isEmpty_eq_false_iff] at wellNamed
  obtain ⟨named, operands, nonempty⟩ := wellNamed
  rw [programOf_opened clean named]
  refine tokensOfText_text ?_ ?_
  · intro operand member
    exact not_mem_of_isName (List.all_eq_true.mp operands operand member) rfl
  · intro empty
    have part := names_subset_tokens value
    rw [empty, List.subset_nil] at part
    exact nonempty part

/-- Tokens that refer to a series are its names. -/
theorem operandReferences_subset {value : Expression} {tokens : List String}
    (part : tokens ⊆ value.tokens) :
    ∀ reference ∈ operandReferences tokens,
      reference ∈ value.names.map fun name => (⟨name, .operand⟩ : Reference) := by
  intro reference member
  obtain ⟨token, refers, rfl⟩ := List.mem_map.mp member
  obtain ⟨isToken, plain⟩ := List.mem_filter.mp refers
  rw [isReferenceToken, Bool.and_eq_true, Bool.not_eq_true'] at plain
  refine List.mem_map.mpr ⟨token, ?_, rfl⟩
  rcases mem_tokens value (part isToken) with name | number | ⟨symbol, rfl⟩
  · exact name
  · exact Bool.noConfusion (number.symm.trans plain.1)
  · exact absurd plain.2 (by simp)

theorem afterLine?_text (width : UInt8) (rest : List Char) :
    afterLine? ("LINE".toList ++ ((Nat.repr width.toNat).toList ++ ':' :: rest)) = some rest := by
  have digits : ∀ character ∈ (Nat.repr width.toNat).toList, character.isDigit = true := by
    intro character member
    exact Numeral.isDigit_of_mem_repr member
  have behind :
      after? "LINE".toList ("LINE".toList ++ ((Nat.repr width.toNat).toList ++ ':' :: rest)) =
        some ((Nat.repr width.toNat).toList ++ ':' :: rest) := after?_eq_some_iff.mpr rfl
  rw [afterLine?, behind, Option.bind_some, List.dropWhile_append_of_pos digits,
    List.dropWhile_cons_of_neg (by decide)]
  rfl

/-- Behind the opening of a line comes the name of its series. -/
theorem afterLine?_line {name : String} (named : isName name = true) (width : UInt8)
    (color : Color) (legend : Option String) (flags : List String) :
    ∃ rest, afterLine? (text (.line width name color legend flags)).toList = some rest ∧
      leadingName rest = name := by
  have written : (text (.line width name color legend flags)).toList =
      "LINE".toList ++ ((Nat.repr width.toNat).toList ++ ':' :: (name.toList ++
        '#' :: (color.digits.tail ++ (lineFields legend flags).toList))) := by
    simp [text, Color.text, Color.digits]
  rw [written]
  exact ⟨_, afterLine?_text width _, leadingName_append named (.inr rfl) _⟩

/-- A text that opens as a usage uses the name behind the opening. -/
theorem usage?_opened (role : Role) {opening name : String} {stop : Char}
    (listed : (opening, role) ∈ usages) (named : isName name = true)
    (stops : stop = ':' ∨ stop = '#') (rest : List Char) :
    usage? (opening.toList ++ (name.toList ++ stop :: rest)) = some ⟨name, role⟩ := by
  simp only [usages, List.mem_cons, Prod.mk.injEq, List.not_mem_nil, or_false] at listed
  have used : usage? (opening.toList ++ (name.toList ++ stop :: rest)) =
      some ⟨leadingName (name.toList ++ stop :: rest), role⟩ := by
    rcases listed with ⟨rfl, rfl⟩ | ⟨rfl, rfl⟩ | ⟨rfl, rfl⟩ | ⟨rfl, rfl⟩ <;> rfl
  rw [used, leadingName_append named stops]

/-- What an element uses without declaring anything can be read from its text. -/
theorem usage?_text {element : Element} (wellNamed : element.isWellNamed = true)
    (plain : element.declaration? = none) :
    (usage? element.text.toList).toList = element.references := by
  cases element with
  | stored | derived | scalar => exact nomatch plain
  | shift name seconds =>
      have written : (text (.shift name seconds)).toList =
          "SHIFT:".toList ++ (name.toList ++ ':' :: (Int.repr seconds).toList) := by
        simp [text]
      rw [written, usage?_opened .samples (by decide) wellNamed (.inl rfl)]
      rfl
  | tick name color height legend =>
      have written : (text (.tick name color height legend)).toList =
          "TICK:".toList ++ (name.toList ++
            '#' :: (color.digits.tail ++ (tickFields height legend).toList)) := by
        simp [text, Color.text, Color.digits]
      rw [written, usage?_opened .samples (by decide) wellNamed (.inr rfl)]
      rfl
  | line width name color legend flags =>
      obtain ⟨rest, behind, leads⟩ := afterLine?_line wellNamed width color legend flags
      rw [usage?, behind, Option.map_some, Option.some_or, leads]
      rfl
  | report name format =>
      have written : (text (.report name format)).toList =
          "GPRINT:".toList ++ (name.toList ++ ':' :: format.toList) := by
        simp [text]
      rw [written, usage?_opened .value (by decide) wellNamed (.inl rfl)]
      rfl
  | print name label =>
      have written : (text (.print name label)).toList =
          "PRINT:".toList ++ (name.toList ++ ':' :: (field label ++ "\\:%lf").toList) := by
        simp [text]
      rw [written, usage?_opened .value (by decide) wellNamed (.inl rfl)]
      rfl
  | comment | alignLeft | rule =>
      simp [text, usage?, usages, afterLine?, after?, references]

/-- **The references of an element can be read from its text**: the text has no others. -/
theorem references_text {element : Element} (wellNamed : element.isWellNamed = true) :
    ∀ reference ∈ MainsCharts.references element.text, reference ∈ element.references := by
  intro reference member
  rw [MainsCharts.references, ofText?_text] at member
  cases declares : element.declaration? with
  | none =>
      rw [declares, Option.map_none] at member
      rwa [← usage?_text wellNamed declares]
  | some declaration =>
      cases element with
      | stored => exact nomatch member
      | derived name value =>
          have program : programOf (text (.derived name value)) = value.tokens :=
            programOf_text (by decide) wellNamed
          simp only [declaration?, Option.map_some, program] at member
          exact operandReferences_subset (List.Subset.refl _) reference member
      | scalar name value =>
          have program : programOf (text (.scalar name value)) = value.tokens :=
            programOf_text (by decide) wellNamed
          simp only [declaration?, Option.map_some, program] at member
          rcases List.mem_append.mp member with reduced | operand
          · exact List.mem_append_left _ reduced
          · exact List.mem_append_right _
              (operandReferences_subset (List.drop_subset 1 _) reference operand)
      | _ => exact nomatch declares

example : MainsCharts.references "CDEF:e_min=r_min,-0.5,LT" = [⟨"r_min", .operand⟩] := by
  decide

example : MainsCharts.references "VDEF:g_max=r_max,99.9,PERCENTNAN" = [⟨"r_max", .samples⟩] := by
  decide

end Element

end MainsCharts
