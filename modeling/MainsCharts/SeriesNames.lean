import MainsCharts.Failure
import MainsCharts.Text.Ends
import Std.Data.HashSet.Lemmas

/-!
# Names of series

Among the arguments of a drawing those that declare a series, read, derived or
scalar, give it a name, which stands before the first equals sign.  The three
kinds share one name space, and no name may be declared twice.
-/

namespace MainsCharts

set_option autoImplicit false

open Text

/-- The openings of the arguments that declare a series: read, derived and scalar. -/
def declarationOpenings : List String :=
  ["DEF:", "CDEF:", "VDEF:"]

/-- What follows the opening of a declaration. -/
def afterDeclaration? (argument : List Char) : Option (List Char) :=
  declarationOpenings.findSome? fun opening => after? opening.toList argument

/-- The name that an argument declares. -/
def declaredName? (argument : String) : Option String := do
  let rest ← afterDeclaration? argument.toList
  if '=' ∈ rest then some (String.ofList (rest.takeWhile (· ≠ '='))) else none

/-- The first name of a list that stands earlier in it, or among those already seen. -/
def firstRepeated? (seen : Std.HashSet String) : List String → Option String
  | [] => none
  | name :: rest => if name ∈ seen then some name else firstRepeated? (seen.insert name) rest

/-- No name is found exactly when the names differ from one another and from those
already seen. -/
theorem firstRepeated?_eq_none_iff (seen : Std.HashSet String) (names : List String) :
    firstRepeated? seen names = none ↔ names.Nodup ∧ ∀ name ∈ names, name ∉ seen := by
  induction names generalizing seen with
  | nil => simp [firstRepeated?]
  | cons name rest ih =>
      by_cases known : name ∈ seen
      · simp [firstRepeated?, known]
      · simp only [firstRepeated?, known, if_false, ih, Std.HashSet.mem_insert, List.nodup_cons,
          List.forall_mem_cons, beq_iff_eq, not_or]
        constructor
        · intro ⟨distinct, fresh⟩
          exact ⟨⟨fun repeated => (fresh name repeated).1 rfl, distinct⟩, not_false,
            fun other member => (fresh other member).2⟩
        · intro ⟨⟨once, distinct⟩, _, fresh⟩
          exact ⟨distinct, fun other member =>
            ⟨fun same => once (same ▸ member), fresh other member⟩⟩

/-- Refuses arguments that declare a name twice. -/
def checkNames (arguments : List String) : Except Misuse Unit :=
  match firstRepeated? ∅ (arguments.filterMap declaredName?) with
  | some name => .error (.seriesRepeated name)
  | none => .ok ()

end MainsCharts
