import MainsCharts.FileStore
import MainsCharts.Proofs.Session.Trace

/-!
# Making a file

What a store becomes when a file is made or written, and what a path leads to afterwards.
Only one location changes, and there is no directory at it before or after (`ChangedAt`).
A path is walked through directories alone, so that such a change can only matter for a
path that ends at the location (`ChangedAt.walk`, `ChangedAt.access`).

Making a file leaves an empty one where the path leads to (`access_of_create`).  Whether the path
led anywhere before depends on that location alone (`access_before_create`).
-/

namespace MainsCharts.FileStore

set_option autoImplicit false

variable {store earlier later : FileStore} {location other start place : Location}
  {path : String} {components : List String}

/-! ## Nodes -/

theorem node?_of_ne_nil (nonempty : location ≠ []) (store : FileStore) :
    store.node? location = store.nodes.lookup location := by
  rw [node?, if_neg (by simpa using nonempty)]

theorem lookup_filter_ne (nodes : List (Location × Node)) (elsewhere : other ≠ location) :
    (nodes.filter fun (place, _) => place ≠ location).lookup other = nodes.lookup other := by
  induction nodes with
  | nil => rfl
  | cons entry nodes ih =>
      obtain ⟨place, node⟩ := entry
      by_cases same : place = location
      · rw [List.filter_cons_of_neg (by simpa using same), ih, List.lookup_cons,
          show (other == place) = false from by simpa [same] using elsewhere]
      · rw [List.filter_cons_of_pos (by simpa using same), List.lookup_cons, List.lookup_cons, ih]

theorem node?_put_self (nonempty : location ≠ []) (store : FileStore) (node : Node) :
    (store.put location node).node? location = some node := by
  rw [node?_of_ne_nil nonempty, put, List.lookup_cons, beq_self_eq_true]

theorem node?_put_of_ne (elsewhere : other ≠ location) (store : FileStore) (node : Node) :
    (store.put location node).node? other = store.node? other := by
  unfold node?
  split
  · rfl
  · rw [put, List.lookup_cons, show (other == location) = false from by simpa using elsewhere]
    exact lookup_filter_ne store.nodes elsewhere

theorem current_write (store : FileStore) (location : Location) (content : List UInt8) :
    (store.write location content).current = store.current := by
  unfold write
  split <;> rfl

theorem node?_write_of_ne (elsewhere : other ≠ location) (store : FileStore)
    (content : List UInt8) :
    (store.write location content).node? other = store.node? other := by
  unfold write
  split
  · exact node?_put_of_ne elsewhere store _
  · rfl

/-- Only a file takes what is written to it. -/
theorem node?_write_self (store : FileStore) (location : Location) (content : List UInt8) :
    (store.write location content).node? location =
      match store.node? location with
      | some (.file _ executable) => some (.file content executable)
      | node => node := by
  rw [write]
  cases found : store.node? location with
  | none => exact found
  | some node =>
      cases node with
      | directory => exact found
      | file before executable =>
          have nonempty : location ≠ [] := by
            rintro rfl
            cases found
          exact node?_put_self nonempty store _
      | device => exact found

/-! ## Walks -/

theorem needDirectory_eq_ok_iff :
    store.needDirectory location = .ok () ↔ store.node? location = some .directory := by
  unfold needDirectory
  split <;> simp_all

theorem directory_of_walkOne {component : String}
    (walked : store.walkOne location component = .ok place) :
    store.node? location = some .directory := by
  obtain ⟨⟨⟩, needed, _⟩ := exists_of_bind_eq_ok walked
  exact needDirectory_eq_ok_iff.mp needed

theorem walkOne_of_directory (directory : store.node? location = some .directory)
    (component : String) :
    store.walkOne location component =
      if component = "" ∨ component = "." then .ok location
      else if component = ".." then .ok location.dropLast
      else if longestName < component.utf8ByteSize then .error .nameTooLong
      else if (store.node? (location ++ [component])).isSome then
        .ok (location ++ [component])
      else .error .notFound := by
  rw [walkOne, needDirectory_eq_ok_iff.mpr directory]
  rfl

theorem walk_cons (store : FileStore) (start : Location) (component : String)
    (components : List String) :
    store.walk start (component :: components) =
      store.walkOne start component >>= fun next => store.walk next components :=
  List.foldlM_cons

theorem walk_append_singleton (walked : store.walk start components = .ok place)
    (component : String) :
    store.walk start (components ++ [component]) = store.walkOne place component := by
  rw [walk, List.foldlM_append, show components.foldlM store.walkOne start = .ok place from walked]
  exact bind_pure (store.walkOne place component)

/-! ## A change at one location -/

/-- A store before and after a change at one location that is no directory. -/
structure ChangedAt (location : Location) (earlier later : FileStore) : Prop where
  current : later.current = earlier.current
  elsewhere : ∀ other, other ≠ location → later.node? other = earlier.node? other
  before : earlier.node? location ≠ some .directory
  after : later.node? location ≠ some .directory

namespace ChangedAt

theorem put (plain : store.node? location ≠ some .directory) {node : Node}
    (notDirectory : node ≠ .directory) : ChangedAt location store (store.put location node) where
  current := rfl
  elsewhere _ away := node?_put_of_ne away store node
  before := plain
  after := by
    have nonempty : location ≠ [] := by
      rintro rfl
      exact plain rfl
    rw [node?_put_self nonempty]
    simpa using notDirectory

theorem write (plain : store.node? location ≠ some .directory) (content : List UInt8) :
    ChangedAt location store (store.write location content) where
  current := current_write store location content
  elsewhere _ away := node?_write_of_ne away store content
  before := plain
  after := by
    rw [node?_write_self]
    split
    · simp
    · exact plain

theorem directory (changed : ChangedAt location earlier later)
    (found : earlier.node? place = some .directory) : later.node? place = some .directory := by
  rwa [changed.elsewhere place]
  rintro rfl
  exact changed.before found

/-- A step leads to where it led, if something is still there. -/
theorem walkOne (changed : ChangedAt location earlier later) {component : String}
    (walked : earlier.walkOne start component = .ok place) (there : (later.node? place).isSome) :
    later.walkOne start component = .ok place := by
  have found := directory_of_walkOne walked
  rw [walkOne_of_directory found] at walked
  rw [walkOne_of_directory (changed.directory found)]
  by_cases here : component = "" ∨ component = "."
  · rwa [if_pos here] at walked ⊢
  rw [if_neg here] at walked ⊢
  by_cases up : component = ".."
  · rwa [if_pos up] at walked ⊢
  rw [if_neg up] at walked ⊢
  by_cases long : longestName < component.utf8ByteSize
  · rwa [if_pos long] at walked ⊢
  rw [if_neg long] at walked ⊢
  split at walked
  · cases walked
    rw [if_pos there]
  · cases walked

/-- A walk leads to where it led, if something is still there: it went through directories,
and they all are what they were. -/
theorem walk (changed : ChangedAt location earlier later) {components : List String}
    (walked : earlier.walk start components = .ok place) (there : (later.node? place).isSome) :
    later.walk start components = .ok place := by
  induction components generalizing start with
  | nil => exact walked
  | cons component components ih =>
      rw [walk_cons] at walked ⊢
      obtain ⟨next, stepped, onward⟩ := exists_of_bind_eq_ok walked
      -- What a walk goes on from is a directory.
      have still : (later.node? next).isSome := by
        cases components with
        | nil =>
            obtain rfl := Except.ok.inj onward
            exact there
        | cons further components =>
            rw [walk_cons] at onward
            obtain ⟨_, again, _⟩ := exists_of_bind_eq_ok onward
            rw [changed.directory (directory_of_walkOne again)]
            rfl
      rw [changed.walkOne stepped still]
      exact ih onward

end ChangedAt

/-! ## Opening -/

theorem access_eq_ok_iff :
    store.access path = .ok place ↔
      checkAccess path = .ok () ∧
        store.walk (store.origin path) (split path.toList) = .ok place := by
  unfold access locate checkAccess
  cases checkPath path with
  | error fault => simp [bind, Except.bind]
  | ok checked =>
      by_cases long : longestPath < path.utf8ByteSize
      · simp [bind, Except.bind, long]
      · simp [bind, Except.bind, long, pure, Except.pure]

/-- A path leads to where it led, if something is still there. -/
theorem ChangedAt.access (changed : ChangedAt location earlier later)
    (opened : earlier.access path = .ok place) (there : (later.node? place).isSome) :
    later.access path = .ok place := by
  obtain ⟨allowed, walked⟩ := access_eq_ok_iff.mp opened
  have origin : later.origin path = earlier.origin path := by
    rw [FileStore.origin, FileStore.origin, changed.current]
  rw [access_eq_ok_iff, origin]
  exact ⟨allowed, changed.walk walked there⟩

/-- What can be read is there. -/
theorem isSome_of_contentAt {content : List UInt8}
    (read : store.contentAt location = .ok content) : (store.node? location).isSome := by
  unfold contentAt at read
  cases found : store.node? location with
  | none => simp [found] at read
  | some node => rfl

theorem ChangedAt.contentAt (changed : ChangedAt location earlier later)
    (away : place ≠ location) : later.contentAt place = earlier.contentAt place := by
  rw [FileStore.contentAt, FileStore.contentAt, changed.elsewhere place away]

/-- A file that was written reads as what was written, a device as nothing. -/
theorem contentAt_write (there : (store.node? location).isSome)
    (plain : store.node? location ≠ some .directory) (content : List UInt8) :
    (store.write location content).contentAt location =
      .ok (if store.node? location = some .device then [] else content) := by
  rw [contentAt, node?_write_self]
  cases found : store.node? location with
  | none => simp [found] at there
  | some node =>
      cases node with
      | directory => exact absurd found plain
      | file before executable => simp
      | device => simp

/-! ## Making a file -/

/-- What may be the last name of a file that is made. -/
structure IsName (name : String) : Prop where
  nonempty : name ≠ ""
  notHere : name ≠ "."
  notAbove : name ≠ ".."
  short : name.utf8ByteSize ≤ longestName

theorem walkOne_of_isName {parent : Location} {name : String} (isName : IsName name)
    (directory : store.node? parent = some .directory) :
    store.walkOne parent name =
      if (store.node? (parent ++ [name])).isSome then .ok (parent ++ [name])
      else .error .notFound := by
  rw [walkOne_of_directory directory,
    if_neg (not_or.mpr ⟨isName.nonempty, isName.notHere⟩), if_neg isName.notAbove,
    if_neg (Nat.not_lt.mpr isName.short)]

/-- A last name that no stroke follows is the last component, and it is not empty. -/
theorem splitLast?_eq_some {names parents : List String} {name : String}
    (found : splitLast? names = some (parents, name, false)) :
    names = parents ++ [name] ∧ name ≠ "" := by
  unfold splitLast? at found
  split at found
  · cases found
  · rename_i last others dropped
    simp only [Option.some.injEq, Prod.mk.injEq, Bool.not_eq_false', List.isEmpty_iff] at found
    obtain ⟨rfl, rfl, noStroke⟩ := found
    have reversed : names.reverse = last :: others := by
      rw [← List.takeWhile_append_dropWhile (p := (· = "")) (l := names.reverse), noStroke,
        dropped, List.nil_append]
    refine ⟨by rw [← List.reverse_cons, ← reversed, List.reverse_reverse], ?_⟩
    rintro rfl
    rw [reversed] at noStroke
    simp at noStroke

/-- Where a file is made, and what the store becomes. -/
theorem exists_of_create {created : FileStore}
    (made : store.create path = .ok (location, created)) :
    ∃ parents name parent, checkAccess path = .ok () ∧
      split path.toList = parents ++ [name] ∧ IsName name ∧
      store.walk (store.origin path) parents = .ok parent ∧
      store.node? parent = some .directory ∧ location = parent ++ [name] ∧
      store.node? location ≠ some .directory ∧
      created = if (store.node? location).isSome then store.write location []
        else store.put location (.file [] false) := by
  obtain ⟨⟨⟩, allowed, made⟩ := exists_of_bind_eq_ok made
  split at made
  · cases made
  rename_i parents name trailing lastName
  obtain ⟨parent, walked, made⟩ := exists_of_bind_eq_ok made
  obtain ⟨⟨⟩, directory, made⟩ := exists_of_bind_eq_ok made
  by_cases named : name = "." ∨ name = ".." ∨ trailing = true
  · simp only [if_pos named] at made
    exact nomatch made
  by_cases long : longestName < name.utf8ByteSize
  · simp only [if_neg named, if_pos long] at made
    exact nomatch made
  simp only [if_neg named, if_neg long] at made
  simp only [not_or, Bool.not_eq_true] at named
  obtain ⟨notHere, notAbove, plain⟩ := named
  rw [plain] at lastName
  obtain ⟨split, nonempty⟩ := splitLast?_eq_some lastName
  have isName : IsName name := ⟨nonempty, notHere, notAbove, Nat.le_of_not_lt long⟩
  refine ⟨parents, name, parent, allowed, split, isName, walked,
    needDirectory_eq_ok_iff.mp directory, ?_⟩
  split at made
  · exact nomatch made
  · rename_i node notDirectory found
    cases made
    refine ⟨rfl, ?_, by rw [found]; rfl⟩
    rw [found]
    rintro same
    exact notDirectory (Option.some.inj same)
  · rename_i found
    cases made
    exact ⟨rfl, by rw [found]; simp, by rw [found]; rfl⟩

section Made

variable {created : FileStore} (made : store.create path = .ok (location, created))
include made

theorem changedAt_of_create : ChangedAt location store created := by
  obtain ⟨parents, name, parent, -, -, -, -, -, -, plain, rfl⟩ := exists_of_create made
  split
  · exact .write plain []
  · exact .put plain (by simp)

/-- A file that was made reads as nothing. -/
theorem contentAt_of_create : created.contentAt location = .ok [] := by
  obtain ⟨parents, name, parent, -, -, -, -, -, rfl, plain, rfl⟩ := exists_of_create made
  split
  · rename_i there
    rw [contentAt_write there plain, ite_self]
  · rw [contentAt, node?_put_self (by simp)]

theorem isSome_of_create : (created.node? location).isSome :=
  isSome_of_contentAt (contentAt_of_create made)

/-- Making a file keeps a device, and does not make one. -/
theorem device_iff_of_create :
    created.node? location = some .device ↔ store.node? location = some .device := by
  obtain ⟨parents, name, parent, -, -, -, -, -, rfl, plain, rfl⟩ := exists_of_create made
  cases found : store.node? (parent ++ [name]) with
  | none => simp [node?_put_self]
  | some node => cases node <;> simp [found, node?_write_self]

/-- A path that a file was made by leads to it. -/
theorem access_of_create : created.access path = .ok location := by
  obtain ⟨parents, name, parent, allowed, split, isName, walked, directory, same, -, -⟩ :=
    exists_of_create made
  have changed := changedAt_of_create made
  have stays := changed.directory directory
  have origin : created.origin path = store.origin path := by
    rw [FileStore.origin, FileStore.origin, changed.current]
  rw [access_eq_ok_iff, origin, split,
    walk_append_singleton (changed.walk walked (by rw [stays]; rfl)),
    walkOne_of_isName isName stays, ← same, if_pos (isSome_of_create made)]
  exact ⟨allowed, rfl⟩

/-- Before a file was made by a path, the path led to its location, if to anything. -/
theorem access_before_create :
    store.access path = .ok place ↔ place = location ∧ (store.node? location).isSome := by
  obtain ⟨parents, name, parent, allowed, split, isName, walked, directory, same, -, -⟩ :=
    exists_of_create made
  rw [access_eq_ok_iff, split, walk_append_singleton walked, walkOne_of_isName isName directory,
    ← same]
  cases (store.node? location).isSome <;> simp [allowed, eq_comm]

end Made

end MainsCharts.FileStore
