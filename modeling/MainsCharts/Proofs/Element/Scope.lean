import MainsCharts.Proofs.Element.Reading

/-!
# The scope of names in a drawing

The renderer works through its arguments in order, and a series is only there for
those that come after its declaration.  A list of arguments is well scoped when
each of them uses only what was declared before it, in a role that it can have: a
report needs a scalar, a series that is moved or marked needs samples.

This is checked on elements, one after the other, with what is declared so far.
Lists of elements are scoped piece by piece (`isScoped_append`), and a piece stays
scoped where more is declared (`isScoped_mono`).  What holds of the elements holds of
the arguments they are written as (`wellScoped_of_isScoped`).  There the program of a
derived series is made of instructions only (`WellScoped.isInstruction`).
-/

namespace MainsCharts

set_option autoImplicit false

open Expression

/-- Whether a declaration provides what is referred to, in its role. -/
def Reference.isMet (reference : Reference) (declared : List (String × SeriesKind)) : Bool :=
  declared.any fun (name, kind) => name == reference.name && reference.role.admits kind

/-- Arguments of which each refers only to what was declared before it. -/
def WellScoped (arguments : List String) : Prop :=
  ∀ earlier argument later, arguments = earlier ++ argument :: later →
    ∀ reference ∈ references argument,
      reference.isMet (earlier.filterMap declaration?) = true

theorem Reference.isMet_iff {reference : Reference} {declared : List (String × SeriesKind)} :
    reference.isMet declared = true ↔
      ∃ kind, (reference.name, kind) ∈ declared ∧ reference.role.admits kind = true := by
  rw [isMet, List.any_eq_true]
  constructor
  · rintro ⟨⟨name, kind⟩, member, met⟩
    rw [Bool.and_eq_true, beq_iff_eq] at met
    obtain ⟨rfl, admitted⟩ := met
    exact ⟨kind, member, admitted⟩
  · rintro ⟨kind, member, admitted⟩
    exact ⟨(reference.name, kind), member,
      Bool.and_eq_true_iff.mpr ⟨beq_self_eq_true reference.name, admitted⟩⟩

theorem Reference.isMet_of_mem {declared : List (String × SeriesKind)} {name : String} {role : Role}
    {kind : SeriesKind} (member : (name, kind) ∈ declared) (admitted : role.admits kind = true) :
    Reference.isMet ⟨name, role⟩ declared = true :=
  isMet_iff.mpr ⟨kind, member, admitted⟩

theorem Reference.isMet_mono {reference : Reference} {fewer more : List (String × SeriesKind)}
    (part : fewer ⊆ more) (met : reference.isMet fewer = true) : reference.isMet more = true := by
  obtain ⟨kind, member, admitted⟩ := isMet_iff.mp met
  exact isMet_iff.mpr ⟨kind, part member, admitted⟩

/-! ## Elements in their scope -/

/-- What elements declare, in order. -/
def declarations (elements : List Element) : List (String × SeriesKind) :=
  elements.filterMap Element.declaration?

/-- Whether elements are well named and refer only to what was declared before them, by
one another or already at the start. -/
def isScoped (declared : List (String × SeriesKind)) : List Element → Bool
  | [] => true
  | element :: rest =>
      (element.isWellNamed && element.references.all (·.isMet declared)) &&
        isScoped (declared ++ element.declaration?.toList) rest

variable {declared : List (String × SeriesKind)}

theorem declarations_append (first second : List Element) :
    declarations (first ++ second) = declarations first ++ declarations second :=
  List.filterMap_append

theorem declarations_flatMap {Index : Type} (indices : List Index)
    (piece : Index → List Element) :
    declarations (indices.flatMap piece) =
      indices.flatMap fun index => declarations (piece index) :=
  List.filterMap_flatMap ..

/-- What elements declare is there for those that follow. -/
theorem isScoped_append (first second : List Element) :
    isScoped declared (first ++ second) =
      (isScoped declared first && isScoped (declared ++ declarations first) second) := by
  induction first generalizing declared with
  | nil => rw [List.nil_append, isScoped, Bool.true_and, declarations, List.filterMap_nil,
      List.append_nil]
  | cons element rest ih =>
      have more : declarations (element :: rest) =
          element.declaration?.toList ++ declarations rest := by
        cases found : element.declaration? with
        | none => rw [declarations, List.filterMap_cons_none found]; rfl
        | some declaration => rw [declarations, List.filterMap_cons_some found]; rfl
      simp only [List.cons_append, isScoped, ih, more, List.append_assoc, Bool.and_assoc]

theorem isScoped_mono {fewer more : List (String × SeriesKind)} (part : fewer ⊆ more)
    {elements : List Element} (inScope : isScoped fewer elements = true) :
    isScoped more elements = true := by
  induction elements generalizing fewer more with
  | nil => rfl
  | cons element rest ih =>
      rw [isScoped, Bool.and_eq_true, Bool.and_eq_true, List.all_eq_true] at inScope ⊢
      obtain ⟨⟨wellNamed, met⟩, scopedRest⟩ := inScope
      refine ⟨⟨wellNamed, ?_⟩, ?_⟩
      · intro reference member
        exact Reference.isMet_mono part (met reference member)
      · refine ih ?_ scopedRest
        exact List.append_subset.mpr ⟨List.subset_append_of_subset_left _ part,
          List.subset_append_right _ _⟩

theorem isWellNamed_of_isScoped {elements : List Element}
    (inScope : isScoped declared elements = true) :
    ∀ element ∈ elements, element.isWellNamed = true := by
  induction elements generalizing declared with
  | nil => exact List.forall_mem_nil _
  | cons element rest ih =>
      rw [isScoped, Bool.and_eq_true, Bool.and_eq_true] at inScope
      exact List.forall_mem_cons.mpr ⟨inScope.1.1, ih inScope.2⟩

/-- Two pieces that need nothing of one another. -/
theorem isScoped_append_of {first second : List Element}
    (scopedFirst : isScoped declared first = true)
    (scopedSecond : isScoped declared second = true) :
    isScoped declared (first ++ second) = true := by
  rw [isScoped_append, scopedFirst, Bool.true_and]
  exact isScoped_mono (List.subset_append_left _ _) scopedSecond

theorem isScoped_of_forall {elements : List Element}
    (usable : ∀ element ∈ elements, element.isWellNamed = true ∧
      ∀ reference ∈ element.references, reference.isMet declared = true) :
    isScoped declared elements = true := by
  induction elements generalizing declared with
  | nil => rfl
  | cons element rest ih =>
      obtain ⟨⟨wellNamed, met⟩, others⟩ := List.forall_mem_cons.mp usable
      rw [isScoped, wellNamed, List.all_eq_true.mpr met, Bool.true_and, Bool.true_and]
      exact isScoped_mono (List.subset_append_left _ _) (ih others)

/-- Pieces that need nothing of one another. -/
theorem isScoped_flatMap {Index : Type} {indices : List Index} {piece : Index → List Element}
    (inScope : ∀ index ∈ indices, isScoped declared (piece index) = true) :
    isScoped declared (indices.flatMap piece) = true := by
  induction indices generalizing declared with
  | nil => rfl
  | cons index rest ih =>
      rw [List.flatMap_cons]
      obtain ⟨here, others⟩ := List.forall_mem_cons.mp inScope
      exact isScoped_append_of here (ih others)

/-! ## Arguments -/

/-- Elements that are scoped where some series are declared find, once they are written,
everything there or before them. -/
theorem isMet_of_isScoped {elements : List Element} (inScope : isScoped declared elements = true)
    {earlier later : List String} {argument : String}
    (split : elements.map Element.text = earlier ++ argument :: later) :
    ∀ reference ∈ references argument,
      reference.isMet (declared ++ earlier.filterMap declaration?) = true := by
  induction elements generalizing declared earlier with
  | nil => exact absurd split.symm (List.append_ne_nil_of_right_ne_nil _ (List.cons_ne_nil _ _))
  | cons element rest ih =>
      rw [isScoped, Bool.and_eq_true, Bool.and_eq_true, List.all_eq_true] at inScope
      obtain ⟨⟨wellNamed, met⟩, scopedRest⟩ := inScope
      cases earlier with
      | nil =>
          obtain ⟨rfl, _⟩ := List.cons.inj split
          intro reference member
          rw [List.filterMap_nil, List.append_nil]
          exact met reference (Element.references_text wellNamed reference member)
      | cons first earlier =>
          obtain ⟨rfl, splitRest⟩ := List.cons.inj split
          have more : (element.text :: earlier).filterMap declaration? =
              element.declaration?.toList ++ earlier.filterMap declaration? := by
            rw [List.filterMap_cons, Element.declaration?_text wellNamed]
            cases element.declaration? <;> rfl
          rw [more, ← List.append_assoc]
          exact ih scopedRest splitRest

/-- **Scoped elements are written as well scoped arguments.** -/
theorem wellScoped_of_isScoped {elements : List Element} (inScope : isScoped [] elements = true) :
    WellScoped (elements.map Element.text) := by
  intro earlier argument later split
  exact isMet_of_isScoped inScope split

/-- An argument that uses nothing may stand before the others. -/
theorem WellScoped.cons {argument : String} {arguments : List String}
    (unread : references argument = []) (inScope : WellScoped arguments) :
    WellScoped (argument :: arguments) := by
  intro earlier other later split reference member
  cases earlier with
  | nil =>
      obtain ⟨rfl, _⟩ := List.cons.inj split
      rw [unread] at member
      exact nomatch member
  | cons first earlier =>
      obtain ⟨rfl, splitRest⟩ := List.cons.inj split
      refine Reference.isMet_mono ?_ (inScope earlier other later splitRest reference member)
      exact (List.sublist_cons_self argument earlier).filterMap declaration? |>.subset

/-- Arguments are well scoped without those that come after them. -/
theorem WellScoped.of_append {first second : List String} (inScope : WellScoped (first ++ second)) :
    WellScoped first := by
  intro earlier argument later split
  refine inScope earlier argument (later ++ second) ?_
  rw [split, List.append_assoc, List.cons_append]

/-! ## Programs -/

/-- A token that means something to the renderer: an operator, a number, or a series that
has been declared. -/
def IsInstruction (declared : List (String × SeriesKind)) (token : String) : Prop :=
  (∃ symbol : Operator, token = symbol.token) ∨ isNumberToken token = true ∨
    ∃ kind, (token, kind) ∈ declared

/-- The program of a derived series in its scope has no token that is empty, unknown or
declared only later: what is no operator and no number refers to a series. -/
theorem WellScoped.isInstruction {arguments earlier later : List String} {argument : String}
    (inScope : WellScoped arguments) (split : arguments = earlier ++ argument :: later)
    (derives : SeriesKind.ofText? argument.toList = some .derived) :
    ∀ token ∈ programOf argument, IsInstruction (earlier.filterMap declaration?) token := by
  intro token member
  cases isOperator : Operator.ofToken? token with
  | some symbol => exact .inl ⟨symbol, (Operator.token_of_ofToken? isOperator).symm⟩
  | none =>
      cases isNumber : isNumberToken token with
      | true => exact .inr (.inl isNumber)
      | false =>
          have refers : isReferenceToken token = true := by
            rw [isReferenceToken, isNumber, isOperator]
            rfl
          have referred : ⟨token, .operand⟩ ∈ references argument := by
            rw [references, derives]
            exact List.mem_map.mpr ⟨token, List.mem_filter.mpr ⟨member, refers⟩, rfl⟩
          obtain ⟨kind, declared, _⟩ :=
            Reference.isMet_iff.mp (inScope earlier argument later split _ referred)
          exact .inr (.inr ⟨kind, declared⟩)

end MainsCharts
