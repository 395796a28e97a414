import CommandConsole.FileTree
import CommandConsole.History
import CommandConsole.Reading
import CommandConsole.Session

/-!
# Running lines at a prompt

At the prompt, lines are read and run one by one until one requests the end of the session
or the input ends. Every line that is not blank is handed to the history before it is run,
whether it can be run or not. An abandoned line leaves no trace, and input that is no text
is the one thing that ends the run with a failure.

The history is loaded from its file before the first line, and saved after the last one if
anything was added; the directories of the file are made if they are missing. That either
of this cannot be done is noted and is no failure. After input that is no text, the history
is not saved. In between nobody asks the history anything, so the loop only keeps the lines
that it hands over, and what the history makes of them is found out at the end.

* `Repl.readFrom` is the loop over the readings;
* `Repl.run` is the loop with the history around it.
-/

namespace CommandConsole.Repl

variable {κ : Type}

/-- What running lines at a prompt comes to. -/
structure Run (κ : Type) where
  /-- Whether all that was read was text. -/
  readable : Bool
  world : World κ
  /-- The lines that were handed to the history, in order. -/
  handed : List Text
  /-- What was printed in answer to each reading. -/
  printed : List Text
  /-- What was not read, because the session had ended. -/
  unread : List Reading
  notes : List Note

/-- With what was handed over and printed in answer to an earlier reading, and what happened
then. -/
def Run.after (handed : List Text) (printed : Text) (notes : List Note) (r : Run κ) : Run κ :=
  { r with
    handed := handed ++ r.handed
    printed := printed :: r.printed
    notes := notes ++ r.notes }

/-- Shows the prompt, which may be nothing. -/
def showPrompt (prompt : Text) (w : World κ) : World κ :=
  { w with out := w.out.append prompt }

/-- What is handed to the history when a line was read: the line, unless it is blank. -/
def handOver (line : Text) : List Text :=
  if (Text.trim line).isEmpty then [] else [line]

/-- Reads and runs lines. -/
def readFrom (perform : Perform κ) (prompt : Text) : List Reading → World κ → Run κ
  | [], w => ⟨true, showPrompt prompt w, [], [], [], []⟩
  | reading :: rest, w =>
    let asked := showPrompt prompt w
    match reading with
    | .ended => ⟨true, asked, [], [[]], rest, []⟩
    | .unreadable => ⟨false, asked, [], [[]], rest, []⟩
    | .abandoned => (readFrom perform prompt rest asked).after [] [] []
    | .line line =>
      let handed := handOver line
      -- blank lines are run too, which does nothing
      let run := Session.runLine perform line asked
      let printed := run.world.out.written.drop asked.out.written.length
      if run.world.exitRequested then
        ⟨true, run.world, handed, [printed], rest, run.notes⟩
      else (readFrom perform prompt rest run.world).after handed printed run.notes

/-- Loads the history from its file, and tells what happened. -/
def loadHistory (limit : Nat) (path : Text) (files : FileTree) : History × List Event :=
  match files.read path with
  | .ok content =>
    let (history, bad) := History.load limit content
    (history, bad.map .badHistoryEscape)
  | .error reason => (.empty limit, [.historyNotLoaded path reason.message])

/-- Writes the history to its file, if there is anything new in it. -/
def writeHistory (history : History) (path : Text) (files : FileTree) :
    Except FileError FileTree := do
  let files ← match FileTree.parentPath? path with
    | some parent => files.makeDirectories parent
    | none => .ok files
  if history.entries.isEmpty || history.fresh == 0 then .ok files
  else files.write path history.render

/-- Saves the history in its file, and tells what happened. -/
def saveHistory (history : History) (path : Text) (files : FileTree) : FileTree × List Event :=
  match writeHistory history path files with
  | .ok saved => (saved, [])
  | .error reason => (files, [.historyNotSaved path reason.message])

/-- Runs lines at a prompt with a history of at most `limit` entries, which is kept in a
file if there is a path for it. Gives the run and the files after it. -/
def run (perform : Perform κ) (prompt : Text) (limit : Nat) (path? : Option Text)
    (readings : List Reading) (files : FileTree) (w : World κ) : Run κ × FileTree :=
  match path? with
  | none => (readFrom perform prompt readings w, files)
  | some path =>
    let (history, loading) := loadHistory limit path files
    let r := readFrom perform prompt readings w
    let (saved, saving) :=
      if r.readable then saveHistory (r.handed.foldl .add history) path files else (files, [])
    ({ r with notes := loading.map w.note ++ r.notes ++ saving.map r.world.note }, saved)

/-- The terminals that cannot edit a line: the prompt is shown there even if the lines do not
come from a terminal. -/
def simpleTerminals : List Text := ["dumb", "cons25", "emacs"]

/-- Whether a terminal is one that cannot edit a line. -/
def isSimpleTerminal (name : Text) : Bool :=
  simpleTerminals.contains (name.map Char.toLower)

/-- Runs lines that come from a stream of bytes. The prompt is shown only for a terminal that
cannot edit a line, and backspaces in the lines are obeyed. -/
def runStream (perform : Perform κ) (prompt terminal : Text) (limit : Nat)
    (path? : Option Text) (bytes : List UInt8) (files : FileTree) (w : World κ) :
    Run κ × FileTree :=
  run perform (if isSimpleTerminal terminal then prompt else []) limit path?
    ((Reading.ofStream bytes).map Reading.obeyed) files w

end CommandConsole.Repl
