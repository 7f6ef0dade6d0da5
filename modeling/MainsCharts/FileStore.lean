import MainsCharts.Failure

/-!
# Files

The files that the program reads and writes, as a value.  A location is the list
of names from the root; a path is walked from the root, or from the current
directory, one component after the other.  An empty component and a single dot
stay where they are and two dots go up, but each of them asks for a directory, and
so does a name that is looked up.

The null device reads as nothing and swallows what is written to it.
-/

namespace MainsCharts

set_option autoImplicit false

/-- What stands at a location. -/
inductive Node where
  | directory
  | file (content : List UInt8) (executable : Bool)
  | device
  deriving DecidableEq

/-- The names from the root to a node. -/
abbrev Location := List String

/-- Files and directories, and the directory that relative paths start from. -/
structure FileStore where
  nodes : List (Location × Node)
  current : Location

namespace FileStore

/-- The node at a location.  There always is a root. -/
def node? (store : FileStore) (location : Location) : Option Node :=
  if location.isEmpty then some .directory else store.nodes.lookup location

/-- A store with a node put at a location. -/
def put (store : FileStore) (location : Location) (node : Node) : FileStore :=
  { store with
    nodes := (location, node) :: store.nodes.filter fun (other, _) => other ≠ location }

/-- A store with a node put at a location, and directories above it where there is
nothing yet. -/
def putDeep (store : FileStore) (location : Location) (node : Node) : FileStore :=
  let parents := (List.range location.length).map location.take
  (parents.foldl
      (fun store parent =>
        if (store.node? parent).isSome then store else store.put parent .directory)
      store).put location node

/-- The components of a path between its strokes. -/
def split : List Char → List String
  | [] => [""]
  | '/' :: rest => "" :: split rest
  | character :: rest =>
      match split rest with
      | [] => [String.singleton character]
      | name :: others => (String.singleton character ++ name) :: others

/-- The greatest number of bytes in a name. -/
def longestName : Nat := 255

/-- The greatest number of bytes in a path that a file is opened or launched by. -/
def longestPath : Nat := 4095

/-- Fails unless there is a directory at a location. -/
def needDirectory (store : FileStore) (location : Location) : Except SystemFault Unit :=
  match store.node? location with
  | some .directory => .ok ()
  | some _ => .error .notDirectory
  | none => .error .notFound

/-- One component of a path. -/
def walkOne (store : FileStore) (location : Location) (component : String) :
    Except SystemFault Location := do
  store.needDirectory location
  if component = "" ∨ component = "." then return location
  else if component = ".." then return location.dropLast
  else if longestName < component.utf8ByteSize then throw .nameTooLong
  else
    let next := location ++ [component]
    if (store.node? next).isSome then return next else throw .notFound

/-- The components of a path, from a location on. -/
def walk (store : FileStore) (location : Location) (components : List String) :
    Except SystemFault Location :=
  components.foldlM store.walkOne location

/-- Fails for what no path may be. -/
def checkPath (path : String) : Except SystemFault Unit :=
  if '\x00' ∈ path.toList then .error .nullByte
  else if path.isEmpty then .error .notFound
  else .ok ()

/-- Fails for what no path may be that a file is opened or launched by. -/
def checkAccess (path : String) : Except SystemFault Unit := do
  checkPath path
  if longestPath < path.utf8ByteSize then throw .nameTooLong

/-- Where a path starts. -/
def origin (store : FileStore) (path : String) : Location :=
  if path.startsWith "/" then [] else store.current

/-- The location of the node that a path leads to.  It is found component by component,
so that the path may have any length. -/
def locate (store : FileStore) (path : String) : Except SystemFault Location := do
  checkPath path
  store.walk (store.origin path) (split path.toList)

/-- The location of the node that is opened or launched by a path. -/
def access (store : FileStore) (path : String) : Except SystemFault Location := do
  checkAccess path
  store.locate path

/-- A location as a path. -/
def pathText (location : Location) : String :=
  "/" ++ "/".intercalate location

/-- What a node reads as. -/
def contentAt (store : FileStore) (location : Location) : Except SystemFault (List UInt8) :=
  match store.node? location with
  | some (.file content _) => .ok content
  | some .device => .ok []
  | some .directory => .error .isDirectory
  | none => .error .notFound

/-- A store with the content of a file replaced.  A device keeps nothing. -/
def write (store : FileStore) (location : Location) (content : List UInt8) : FileStore :=
  match store.node? location with
  | some (.file _ executable) => store.put location (.file content executable)
  | _ => store

/-- The components of a path before its last name, that name, and whether strokes
follow it. -/
def splitLast? (components : List String) : Option (List String × String × Bool) :=
  let trailing := components.reverse.takeWhile (· = "")
  match components.reverse.dropWhile (· = "") with
  | [] => none
  | name :: parents => some (parents.reverse, name, !trailing.isEmpty)

/-- Opens a file for writing: an empty file at the path, made when it was missing. -/
def create (store : FileStore) (path : String) : Except SystemFault (Location × FileStore) := do
  checkAccess path
  match splitLast? (split path.toList) with
  | none => throw .isDirectory
  | some (parents, name, trailing) =>
      let parent ← store.walk (store.origin path) parents
      store.needDirectory parent
      if name = "." ∨ name = ".." ∨ trailing then throw .isDirectory
      if longestName < name.utf8ByteSize then throw .nameTooLong
      let location := parent ++ [name]
      match store.node? location with
      | some .directory => throw .isDirectory
      | some _ => return (location, store.write location [])
      | none => return (location, store.put location (.file [] false))

/-- The absolute path of a regular file. -/
def validateSource (store : FileStore) (path : String) : Except Misuse String :=
  match store.locate path with
  | .error fault => .error (.source path fault)
  | .ok location =>
      match store.node? location with
      | some (.file _ _) => .ok (pathText location)
      | _ => .error (.sourceNotRegular path)

end FileStore

end MainsCharts
