import MainsCharts.CommandLine.Run

/-!
# The program

The outer layer: it takes the files that the command line names into a store, lets
the library do the work, and writes back what has changed.

The renderer is left to whoever runs the program.  Each invocation is shown as a
line for a shell on the standard error output, and what the renderer reported is
read from the standard input, up to a line with a single dot.  The work is then
done again with that report known; it goes through at most three invocations.
-/

namespace MainsCharts.Program

set_option autoImplicit false

/-- The directory in which the renderer is taken to be. -/
def programDirectory : Location := ["programs"]

/-- The paths that a word of the command line may hold: the word itself, and the value
behind an equals sign. -/
def pathsOf (word : String) : List String :=
  match word.toList.dropWhile (· ≠ '=') with
  | [] => [word]
  | _ :: value => [word, String.ofList value]

/-- The node that a path leads to outside. -/
def nodeOutside (path : String) : IO (Option Node) := do
  let outside := (← IO.currentDir) / path
  if ← outside.isDir then return some .directory
  else if ← outside.pathExists then
    return some (.file (← IO.FS.readBinFile outside).toList true)
  else return none

/-- A store with the node that a path leads to outside, and its directory. -/
def load (store : FileStore) (path : String) : IO FileStore := do
  let location :=
    store.origin path ++ (FileStore.split path.toList).filter fun name => name ≠ "" && name ≠ "."
  let parent := location.dropLast
  let withParent :=
    match ← nodeOutside (FileStore.pathText parent) with
    | some .directory => store.putDeep parent .directory
    | _ => store
  match ← nodeOutside path with
  | some node => return withParent.putDeep location node
  | none => return withParent

/-- The files that the words of a command line name, and a renderer to be found. -/
def loadAll (words : List String) : IO FileStore := do
  let current := (FileStore.split (← IO.currentDir).toString.toList).filter (· ≠ "")
  let bare : FileStore := ⟨[], current⟩
  let base :=
    ((bare.putDeep current .directory).putDeep ["dev", "null"] .device).putDeep
      (programDirectory ++ [defaultProgram]) (.file [] true)
  (words.flatMap pathsOf).foldlM load base

/-- The lines of a report up to a line with a single dot. -/
def readReport (input : IO.FS.Stream) (limit : Nat) : IO (List UInt8) :=
  match limit with
  | 0 => return []
  | limit + 1 => do
      let line ← input.getLine
      if line.isEmpty || line = ".\n" then return []
      else return line.toUTF8.toList ++ (← readReport input limit)

/-- The greatest number of lines that are taken from a report. -/
def longestReport : Nat := 100000

/-- The files of a host, and the reports that are known already. -/
def hostOf (store : FileStore) (reports : List (List UInt8)) : Host where
  store
  programs := FileStore.pathText programDirectory
  behaviour := fun history _ => ⟨(reports[history.length]?).getD [], [], .exited 0⟩

/-- Writes back what has changed. -/
def save (before after : FileStore) : IO Unit :=
  after.nodes.forM fun (location, node) =>
    match node with
    | .file content _ =>
        if before.node? location = some node then return ()
        else IO.FS.writeBinFile (FileStore.pathText location) ⟨content.toArray⟩
    | _ => return ()

/-- Does the work, asking for a further report as long as one is missing. -/
def answer (environment : Option String) (words : List String) (store : FileStore)
    (reports : List (List UInt8)) (limit : Nat) : IO CommandLine.ProgramResult :=
  let result := CommandLine.run (hostOf store reports) environment words
  match limit, result.launches[reports.length]? with
  | limit + 1, some invocation => do
      (← IO.getStderr).putStrLn (Text.shellLine invocation.arguments)
      let further ← readReport (← IO.getStdin) longestReport
      answer environment words store (reports ++ [further]) limit
  | _, _ => return result

/-- Runs the program. -/
def perform (words : List String) : IO UInt32 := do
  let store ← loadAll words
  let result ← answer (← IO.getEnv "RRDTOOL") words store [] 3
  save store result.store
  (← IO.getStdout).write ⟨result.printed.toArray⟩
  match result.complaint with
  | some complaint => (← IO.getStderr).putStrLn complaint
  | none => pure ()
  return UInt32.ofNat result.exitStatus

end MainsCharts.Program

def main (words : List String) : IO UInt32 :=
  MainsCharts.Program.perform words
