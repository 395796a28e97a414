import CommandConsole.Session

/-!
# Scripted commands

Besides the builtins, a console can be given **scripted** commands, whose actions are small
programs: succeed, fail, look at the invocation or at the registry, change the registry, or
run another line on the same console. A scripted command first notes its call in the
journal, its name and its positional arguments, and then acts.

`Action` joins the builtins, the scripted commands and the silent ones that scripted
commands register. A line run by a command may run lines itself; `Action.performAt` bounds
how deep that goes, and a call that would go deeper panics.
-/

namespace CommandConsole

/-- What a scripted command does after it noted its call. -/
inductive Script where
  | succeed
  | refuse
  | fail (message : Text)
  | panic (message? : Option Text)
  /-- Succeeds if a flag is set. -/
  | hasFlag (flag : Text)
  /-- Succeeds if the argument of an index is exactly a text. -/
  | argumentIs (index : Nat) (text : Text)
  /-- Succeeds if there are so many commands. -/
  | sizeIs (n : Nat)
  /-- Registers a silent command. -/
  | register (name : Text)
  /-- Removes a command, and succeeds if there was one. -/
  | unregister (name : Text)
  /-- Runs a line on the same console. -/
  | run (line : Text)
  deriving DecidableEq, Repr

/-- The actions of a console with builtin and scripted commands. -/
inductive Action where
  | builtin (b : Builtin)
  | script (s : Script)
  /-- Succeeds and notes nothing. -/
  | silent
  deriving DecidableEq, Repr

namespace Script

/-- Success if a condition holds. -/
def replyIf (holds : Bool) : Reply := if holds then .success else .failure

/-- The entry of a call in the journal. -/
def journalEntry {κ : Type} (i : Invocation κ) : Text :=
  Text.joinWith " " (i.name :: i.arguments)

/-- What a scripted command does once its call is noted. `nested` performs the actions of
the lines it runs. -/
def act (nested : Perform Action) (s : Script) : Callback Action := fun i w =>
  match s with
  | succeed => (.success, w)
  | refuse => (.failure, w)
  | fail message => (.error message, w)
  | panic message? => (.panic message?, w)
  | hasFlag flag => (replyIf (i.hasFlag flag), w)
  | argumentIs index text => (replyIf (i.arguments[index]? == some text), w)
  | sizeIs n => (replyIf (w.registry.size == n), w)
  | register name =>
    match w.register (.plain name .silent) with
    | .ok w' => (.success, w')
    | .error e => (.error e.message, w)
  | unregister name =>
    let (removed, w') := w.unregister name
    (replyIf removed.isSome, w')
  | run line =>
    match Console.execute nested line w with
    | .ok e => (replyIf e.success, e.world)
    | .error e => (.error e.message, w)

end Script

namespace Action

/-- What an action does, given what the actions of nested lines do. -/
def act (nested : Perform Action) : Perform Action
  | builtin b => b.perform
  | silent => fun _ w => (.success, w)
  | script s => fun i w =>
    s.act nested i { w with journal := w.journal ++ [Script.journalEntry i] }

/-- What actions do when lines may nest `depth` deep. -/
def performAt : Nat → Perform Action
  | 0 => act fun _ _ w => (.panic (some "lines nested too deeply"), w)
  | depth + 1 => act (performAt depth)

/-- How deep lines may nest. -/
def depthLimit : Nat := 10000

/-- What actions do. -/
def perform : Perform Action := performAt depthLimit

/-- The action of a builtin command that is registered after the session has started. Such a
command prints where the session prints, but the flag that ends the session is out of its
reach: `exit` and `quit` only succeed. -/
def detached : Builtin → Action
  | .exit => silent
  | b => builtin b

end Action

namespace Session

/-- The world of a session that also takes scripted commands. -/
def startScripted : World Action := start Action.builtin

end Session

end CommandConsole
