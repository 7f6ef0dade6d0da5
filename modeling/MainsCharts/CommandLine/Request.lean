import MainsCharts.Build
import MainsCharts.CommandLine.Settings
import MainsCharts.Host

/-!
# Requests

A command line names one of the charts, or the filter, and gives values to its
parameters.  It is read word by word from the left.  A value that was given stays
pending until the next word shows that it is complete, and only then it is read;
so of two faults the one that is settled first is reported, but a word that no
command knows ends the reading at once.

The renderer may be named before the command or within it.  The inner name counts
before the outer, both before the one from the environment, and that before the
program's own.
-/

namespace MainsCharts.CommandLine

set_option autoImplicit false

/-- What a command is to do. -/
inductive Task where
  | chart (chart : Chart)
  | filter
  deriving DecidableEq

namespace Task

/-- The name of a command. -/
def name : Task → String
  | chart which => which.id
  | filter => "filter-xml"

/-- What a command does, in a sentence. -/
def about : Task → String
  | chart which => which.about
  | filter => "Blank blacklisted rows of an `rrdtool dump` XML file"

/-- All commands. -/
def all : List Task :=
  Chart.all.map chart ++ [filter]

/-- The command of a name. -/
def named? (name : String) : Option Task :=
  all.find? fun task => task.name = name

end Task

/-- The command that shows the help of another. -/
def helpCommand : String := "help"

/-- What the help command does, in a sentence. -/
def helpAbout : String := "Print this message or the help of the given subcommand(s)"

/-! ## Grammars -/

/-- What may stand on a part of the command line. -/
structure Grammar where
  about : String
  options : List (String × Parameter)
  switches : List Switch
  positionals : List Parameter
  /-- Whether this is the part before the name of a command. -/
  isOuter : Bool

namespace Grammar

/-- What may stand before the name of a command. -/
def outer : Grammar where
  about := CommandLine.about
  options := [("rrdtool", .renderer)]
  switches := []
  positionals := []
  isOuter := true

/-- The options of every chart. -/
def chartOptions : List (String × Parameter) :=
  [("rrdtool", .renderer), ("trend", .trend), ("error", .noise), ("lower-limit", .lowerLimit),
    ("upper-limit", .upperLimit), ("end", .stop)]

/-- The options of the window of a chart. -/
def windowOptions (chart : Chart) : List (String × Parameter) :=
  if chart.isOverlay then [("width", .width), ("depth", .depth)] else [("start", .start)]

/-- What may follow the name of a command. -/
def ofTask (task : Task) : Grammar :=
  match task with
  | .chart chart =>
      { about := task.about
        options := chartOptions ++ windowOptions chart
        switches := [.printOnly, .skipDetection]
        positionals := [.database, .image]
        isOuter := false }
  | .filter =>
      { about := task.about
        options := [("rrdtool", .renderer)]
        switches := []
        positionals := [.dump, .blacklist, .output]
        isOuter := false }

/-- The switch of a name. -/
def switch? (grammar : Grammar) (name : String) : Option Switch :=
  grammar.switches.find? fun switch => switch.label = name

end Grammar

/-! ## Words -/

/-- What a word looks like. -/
inductive Word where
  /-- Two dashes: all that follows is positional. -/
  | escape
  /-- A name after two dashes, with a value after an equals sign. -/
  | long (name : String) (attached : Option String)
  /-- A letter after a dash. -/
  | short (letter : Char)
  | plain
  deriving DecidableEq

/-- A word after its two dashes. -/
def Word.ofLong (text : List Char) : Word :=
  let name := String.ofList (text.takeWhile (· ≠ '='))
  match text.dropWhile (· ≠ '=') with
  | [] => .long name none
  | _ :: value => .long name (some (String.ofList value))

/-- What a word looks like. -/
def Word.of (text : List Char) : Word :=
  match text with
  | ['-', '-'] => .escape
  | '-' :: '-' :: rest => .ofLong rest
  | '-' :: letter :: _ => .short letter
  | _ => .plain

/-- The digits of a number from a position on: at most one point, not in front and not
in the exponent, and at most one letter for the exponent, neither in front nor at
the end. -/
def isNumberTail (first seenPoint seenExponent : Bool) : List Char → Bool
  | [] => true
  | character :: rest =>
      if character.isDigit then isNumberTail false seenPoint seenExponent rest
      else if character = '.' then
        !first && !seenPoint && !seenExponent && isNumberTail false true seenExponent rest
      else if character = 'e' ∨ character = 'E' then
        !first && !seenExponent && !rest.isEmpty && isNumberTail false seenPoint true rest
      else false

/-- Whether a word is a dash with a number after it. -/
def isNegativeNumber : List Char → Bool
  | '-' :: digits => isNumberTail true false false digits
  | _ => false

/-! ## Reading word by word -/

/-- How far the reading of a part has come. -/
structure Progress where
  settings : Settings
  /-- A parameter that was named, with its value once that was seen. -/
  pending : Option (Parameter × Option String)
  /-- How many positional words there were. -/
  position : Nat
  /-- Whether two dashes were seen. -/
  trailing : Bool

namespace Progress

/-- Nothing read yet. -/
def start : Progress := ⟨.none, none, 0, false⟩

/-- The parameter that the next word may be the value of. -/
def expected? (progress : Progress) : Option Parameter :=
  match progress.pending with
  | some (parameter, none) => if progress.trailing then none else some parameter
  | _ => none

/-- Reads the pending value. -/
def settle (progress : Progress) (store : FileStore) : Except UsageError Progress :=
  match progress.pending with
  | none => .ok progress
  | some (parameter, none) => .error (.valueMissing parameter)
  | some (parameter, some text) => do
      let settings ← progress.settings.give store parameter text
      return { progress with settings, pending := none }

/-- An option without a value behind its name, or with one. -/
def option (progress : Progress) (store : FileStore) (parameter : Parameter)
    (attached : Option String) : Except UsageError Progress := do
  let settled ← progress.settle store
  match attached with
  | some text => return { settled with settings := ← settled.settings.give store parameter text }
  | none => return { settled with pending := some (parameter, none) }

/-- A word that takes no value. -/
def bare (progress : Progress) (store : FileStore) (name : String) (attached : Option String)
    (next : Progress → Except UsageError Progress) : Except UsageError Progress := do
  match attached with
  | some value => throw (.unwantedValue (typed name) value)
  | none => next (← progress.settle store)

/-- A word with two dashes. -/
def long (progress : Progress) (grammar : Grammar) (store : FileStore) (name : String)
    (attached : Option String) : Except UsageError Progress :=
  match grammar.options.lookup name, grammar.switch? name with
  | some parameter, _ => progress.option store parameter attached
  | none, some switch =>
      progress.bare store name attached fun settled => do
        return { settled with settings := ← settled.settings.turnOn switch }
  | none, none =>
      if name = "help" then
        progress.bare store name attached fun _ => .error (.help grammar.about)
      else if name = "version" ∧ grammar.isOuter then
        progress.bare store name attached fun _ => .error .version
      else .error (.unexpected (typed name))

/-- A word with one dash. -/
def short (progress : Progress) (grammar : Grammar) (store : FileStore) (letter : Char) :
    Except UsageError Progress := do
  if letter = 'h' then
    let _ ← progress.settle store
    throw (.help grammar.about)
  else if letter = 'V' ∧ grammar.isOuter then
    let _ ← progress.settle store
    throw .version
  else throw (.unexpected (String.ofList ['-', letter]))

/-- What is wrong with a positional word that nothing asks for. -/
def surplus (progress : Progress) (grammar : Grammar) (word : String) : UsageError :=
  if grammar.isOuter ∧
      ¬ (progress.trailing ∧ (word = helpCommand ∨ (Task.named? word).isSome)) then
    .commandUnknown word
  else .unexpected word

/-- A positional word. -/
def positional (progress : Progress) (grammar : Grammar) (store : FileStore) (word : String) :
    Except UsageError Progress :=
  match grammar.positionals[progress.position]? with
  | some parameter => do
      let settled ← progress.settle store
      return { settled with
        pending := some (parameter, some word)
        position := settled.position + 1 }
  | none => .error (progress.surplus grammar word)

/-- A word that is the value of the expected parameter, or else positional. -/
def plain (progress : Progress) (grammar : Grammar) (store : FileStore) (word : String) :
    Except UsageError Progress :=
  match progress.expected? with
  | some parameter => .ok { progress with pending := some (parameter, some word) }
  | none => progress.positional grammar store word

/-- Whether a word with a dash is the negative value of the expected parameter. -/
def takesNegative (progress : Progress) (word : String) : Bool :=
  match progress.expected? with
  | some parameter => parameter.takesNegative && isNegativeNumber word.toList
  | none => false

/-- The next word. -/
def next (progress : Progress) (grammar : Grammar) (store : FileStore) (word : String) :
    Except UsageError Progress :=
  if progress.trailing then progress.positional grammar store word
  else
    match Word.of word.toList with
    | .escape => .ok { progress with trailing := true }
    | .long name attached => progress.long grammar store name attached
    | .short letter =>
        if progress.takesNegative word then progress.plain grammar store word
        else progress.short grammar store letter
    | .plain => progress.plain grammar store word

end Progress

/-- The settings that the words after the name of a command give. -/
def readTask (task : Task) (store : FileStore) (words : List String) :
    Except UsageError Settings := do
  let grammar := Grammar.ofTask task
  let progress ←
    words.foldlM (fun (progress : Progress) word => progress.next grammar store word) .start
  let settled ← progress.settle store
  if settled.position < grammar.positionals.length then throw .incomplete
  return settled.settings

/-- What the help command shows. -/
def helpOn : List String → UsageError
  | [] => .help about
  | [name] =>
      if name = helpCommand then .help helpAbout
      else
        match Task.named? name with
        | some task => .help task.about
        | none => .commandUnknown name
  | name :: other :: _ =>
      if name = helpCommand ∨ (Task.named? name).isSome then .commandUnknown other
      else .commandUnknown name

/-- The words up to the name of a command, and the command with its settings. -/
def readOuter (store : FileStore) (progress : Progress) :
    List String → Except UsageError (Progress × Option (Task × Settings))
  | [] => .ok (progress, none)
  | word :: rest =>
      let further := do
        let next ← progress.next .outer store word
        readOuter store next rest
      if progress.trailing ∨ progress.expected?.isSome then further
      else if word = helpCommand then .error (helpOn rest)
      else
        match Task.named? word with
        | some task => do
            let settings ← readTask task store rest
            return (progress, some (task, settings))
        | none => further

/-! ## Requests -/

/-- What is to be done. -/
inductive Work where
  | draw (chart : Chart) (mode : RunMode) (job : ChartJob)
  | filter (dump blacklist output : String)

/-- What a command line asks for, and the renderer to do it with. -/
structure Request where
  program : String
  work : Work

/-- The window that the settings of a chart give. -/
def Settings.window (settings : Settings) (chart : Chart) : Window :=
  let stop := settings.stop.getD "now"
  if chart.isOverlay then
    .overlay stop (settings.width.getD Duration.day) (settings.depth.getD 7)
  else .floating (settings.start.getD "end-24h") stop

/-- The work that the settings of a command give. -/
def Settings.work (settings : Settings) : Task → Work
  | .chart chart =>
      .draw chart (if settings.printOnly then .print else .execute)
        { path := settings.database.getD ""
          image := settings.image.getD ""
          window := settings.window chart
          trend := settings.trend.getD .auto
          errorPercentage := settings.noise.getD 0.5
          range :=
            { detect := !settings.skipDetection
              lower := settings.lowerLimit
              upper := settings.upperLimit } }
  | .filter =>
      .filter (settings.dump.getD "") (settings.blacklist.getD "") (settings.output.getD "")

/-- What a command line asks for.  The renderer that the environment names is given. -/
def Request.read (store : FileStore) (environment : Option String) (words : List String) :
    Except UsageError Request := do
  let (progress, inner) ← readOuter store .start words
  let outer := (← progress.settle store).settings
  match inner with
  | some (task, settings) =>
      return {
        program := ((settings.renderer.or outer.renderer).or environment).getD defaultProgram
        work := settings.work task }
  | none =>
      if (outer.renderer.or environment).isSome then throw .commandMissing
      else throw .nothingGiven

end MainsCharts.CommandLine
