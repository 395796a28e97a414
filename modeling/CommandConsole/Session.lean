import CommandConsole.Builtin
import CommandConsole.Console

/-!
# Sessions

A session runs lines in a world and says how each ended. A line with a syntax error is
**rejected**: nothing of it runs, and the error is reported on the error stream with the
part of the line around it. If even the report cannot be written, that is noted and nothing
more. Any other line is a success or a failure like its last invocation that ran.

Several lines run in order until one requests the end of the session. Blank lines are
passed over and leave the status as it was.

* `Session.runLine` runs one line;
* `Session.runLines` runs several and also gives the lines it did not read;
* `Session.start` is the world that a session starts in.
-/

namespace CommandConsole

/-- How a line ended. -/
inductive Status where
  | success
  | failure
  /-- A syntax error: nothing ran. -/
  | rejected
  deriving DecidableEq, Repr

namespace Status

/-- The exit code of a program whose last line ended so. -/
def exitCode : Status → Nat
  | success => 0
  | failure => 1
  | rejected => 2

/-- How a line ended that was run. -/
def ofSuccess (success : Bool) : Status := if success then .success else .failure

end Status

namespace Session

variable {κ : Type}

/-- The number of characters shown around a syntax error. -/
def reportWidth : Nat := 40

/-- The report of a syntax error. -/
def report (line : Text) (e : SyntaxError) : Text :=
  "error: " ++ e.message ++ "\n" ++ e.snippet line reportWidth ++ "\n"

/-- What running one line comes to. -/
structure LineRun (κ : Type) where
  status : Status
  world : World κ
  notes : List Note

/-- Runs one line. -/
def runLine (perform : Perform κ) (line : Text) (w : World κ) : LineRun κ :=
  let resolving := (Console.events w.registry line).map w.note
  match Console.execute perform line w with
  | .ok e => ⟨.ofSuccess e.success, e.world, resolving ++ e.notes⟩
  | .error e =>
    -- nothing has run, so only the report can change the world
    match w.err.write (report line e) with
    | .ok err => ⟨.rejected, { w with err }, resolving⟩
    | .error lost => ⟨.rejected, w, resolving ++ [w.note (.reportLost lost.message)]⟩

/-- What running several lines comes to. -/
structure LinesRun (κ : Type) where
  /-- The status of the last line that was run; success if none was. -/
  status : Status
  world : World κ
  /-- The lines after the one that ended the session. -/
  unread : List Text
  notes : List Note

/-- With what happened while an earlier line ran. -/
def LinesRun.after (notes : List Note) (r : LinesRun κ) : LinesRun κ :=
  { r with notes := notes ++ r.notes }

/-- Runs lines until one requests the end of the session. `status` is that of the last line
that was run. -/
def runLinesFrom (perform : Perform κ) (status : Status) :
    List Text → World κ → LinesRun κ
  | [], w => ⟨status, w, [], []⟩
  | line :: rest, w =>
    if (Text.trim line).isEmpty then runLinesFrom perform status rest w
    else
      let run := runLine perform line w
      if run.world.exitRequested then ⟨run.status, run.world, rest, run.notes⟩
      else (runLinesFrom perform run.status rest run.world).after run.notes

/-- Runs lines until one requests the end of the session. -/
def runLines (perform : Perform κ) (lines : List Text) (w : World κ) : LinesRun κ :=
  runLinesFrom perform .success lines w

/-- The world a session starts in: the builtin commands are registered, and nothing else has
happened. `embed` says which action each of them gets. -/
def start (embed : Builtin → κ) : World κ :=
  (World.empty.registerAll (Builtin.commands.map (Command.map embed))).2

/-- What happens when a session starts. -/
def startNotes : List Note :=
  Builtin.commands.map fun c => ⟨0, .registered c.name⟩

/-- The line as the prompt shows it while it is typed. -/
def live (registry : Registry κ) (theme : Theme) (markup? : Option Markup) (line : Text) :
    Text :=
  match markup? with
  | some markup => Console.highlight registry theme markup line
  | none => line

end Session

end CommandConsole
