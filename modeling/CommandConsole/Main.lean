import CommandConsole.Config.Directories
import CommandConsole.Program

/-!
# The program's outermost layer

Reads the arguments, the environment, the files that may matter and the input, calls
`Program.run`, and writes what it answers. At a terminal the lines come one at a time, so
there each is run by itself, and its answer is shown before the next prompt.

Nothing is decided here: what is read and what is written is what the library says.
-/

open CommandConsole

/-- All that is left of a stream. -/
partial def readAll (stream : IO.FS.Stream) (sofar : ByteArray) : IO ByteArray := do
  let chunk ← stream.read 65536
  if chunk.isEmpty then pure sofar else readAll stream (sofar ++ chunk)

/-- The tree with what is at a path, if there is anything. -/
def lookAt (tree : FileTree) (path? : Option Text) : IO FileTree := do
  let some path := path? | return tree
  match ← (IO.FS.readFile (String.ofList path)).toBaseIO with
  | .ok content => return tree.addFile path content.toList
  | .error (.noFileOrDirectory ..) => return tree
  | .error _ => return tree.addDirectory path

/-- A variable of the environment. -/
def fromEnvironment (name : String) : IO (Option Text) := do
  return (← IO.getEnv name).map String.toList

/-- The directories of the user. -/
def userDirectories : IO UserDirectories := do
  return {
    config? := ← fromEnvironment "XDG_CONFIG_HOME"
    data? := ← fromEnvironment "XDG_DATA_HOME"
    home? := ← fromEnvironment "HOME" }

/-- What surrounds the program, but for the files. -/
def lookAround (terminal : Bool) : IO Surroundings := do
  let directories ← userDirectories
  return {
    build := "unknown"
    configVariable? := ← fromEnvironment "DEVCON_CONFIG"
    logVariable? := ← fromEnvironment "DEVCON_LOG"
    coloring := ⟨← fromEnvironment "NO_COLOR", ← fromEnvironment "COLOR", terminal⟩
    defaultConfig? := directories.configFile?
    defaultHistory? := directories.historyFile?
    files := .empty }

/-- Reads lines from a terminal and runs them. Gives what they hand to the history, after
what was handed over before. -/
partial def converse (prompt : Text) (shown : Text → List Note → Text) (w : World Builtin)
    (before : List Text) : IO (List Text) := do
  let out ← IO.getStdout
  out.putStr (String.ofList prompt)
  out.flush
  let line ← (← IO.getStdin).getLine
  if line.isEmpty then return before
  let reading := Reading.line (Reading.chomp line.toList)
  let run := Repl.readFrom Builtin.perform [] [reading] { w with out := .empty, err := .empty }
  out.putStr (String.ofList run.world.out.written)
  out.flush
  (← IO.getStderr).putStr (String.ofList (shown run.world.err.written run.notes))
  let handed := before ++ run.handed
  if run.world.exitRequested then return handed
  converse prompt shown run.world handed

/-- Writes to the disk what was written to a file of the tree. -/
def store (tree : FileTree) (path : Text) : IO Unit := do
  let .ok content := tree.read path | return
  if let some parent := FileTree.parentPath? path then
    if !parent.isEmpty then IO.FS.createDirAll (String.ofList parent)
  IO.FS.writeFile (String.ofList path) (String.ofList content)

/-- Runs a session at a terminal. -/
def interact (s : Surroundings) (c : Config) (filter : Filter) : IO UInt32 := do
  let shown := filter.render (Program.logStyle s.coloring)
  let tell (events : List Event) : IO Unit := do
    (← IO.getStderr).putStr (String.ofList (shown [] (events.map fun e => ⟨0, e⟩)))
  tell (Session.startNotes.map Note.event)
  match c.historyPath s.defaultHistory? with
  | none =>
    let _ ← converse c.prompt shown (Session.start id) []
  | some path =>
    let files ← lookAt s.files (some path)
    let (history, loading) := Repl.loadHistory c.historySize path files
    tell loading
    let handed ← converse c.prompt shown (Session.start id) []
    let (saved, saving) := Repl.saveHistory (handed.foldl .add history) path files
    store saved path
    tell saving
  return 0

/-- Writes what the program answers. -/
def deliver (a : Answer) : IO UInt32 := do
  (← IO.getStdout).putStr (String.ofList a.out)
  (← IO.getStderr).putStr (String.ofList a.err)
  return a.code.toNat.toUInt32

/-- The program. -/
def main (arguments : List String) : IO UInt32 := do
  let input ← IO.getStdin
  let terminal ← input.isTty
  let around ← lookAround (← (← IO.getStdout).isTty)
  let arguments := arguments.map String.toList
  match Options.parse arguments with
  | .run o =>
    let files ← [o.configPath?, around.configVariable?, around.defaultConfig?].foldlM lookAt
      around.files
    let s := { around with files }
    let silent := !o.commands.isEmpty || o.highlight?.isSome
    match Program.config s o with
    | .ok c =>
      match terminal && !silent, Program.logFilter s.logVariable? c with
      | true, .ok filter => interact s c filter
      | _, _ =>
        let bytes ←
          if silent || terminal then pure ByteArray.empty else readAll input ByteArray.empty
        deliver (Program.runConfigured s o c (.stream bytes.toList))
    | .error _ => deliver (Program.run s arguments (.stream []))
  | _ => deliver (Program.run around arguments (.stream []))
