import CommandConsole.Chain
import CommandConsole.Output

/-!
# The world of a console

Commands act on a **world**: the registry they are found in, the two streams of output, the
flag that ends the session, and a journal of the calls they choose to enter there. The world
is a value. Whatever runs takes one and gives the next one, so what happened before a
failure is still there after it.

How an action acts is a `Perform κ`: a function from actions to callbacks, where a callback
takes the invocation and the world. A callback answers with a `Reply`.
-/

namespace CommandConsole

/-- All that commands can see and change. -/
structure World (κ : Type) where
  registry : Registry κ
  out : Output
  err : Output
  /-- Raised by a command that ends the session. -/
  exitRequested : Bool
  /-- The calls entered so far. -/
  journal : List Text
  deriving DecidableEq

/-- How a callback ends. -/
inductive Reply where
  | success
  | failure
  | error (message : Text)
  /-- A panic, and what it says if that is a text. -/
  | panic (message? : Option Text)
  deriving DecidableEq, Repr

/-- What happens when a command is called. -/
abbrev Callback (κ : Type) : Type := Invocation κ → World κ → Reply × World κ

/-- What each action does. -/
abbrev Perform (κ : Type) : Type := κ → Callback κ

namespace World

variable {κ : Type}

/-- No commands, and nothing has happened. -/
def empty : World κ := ⟨.empty, .empty, .empty, false, []⟩

/-- Registers a command. -/
def register (w : World κ) (c : Command κ) : Except RegistryError (World κ) :=
  (w.registry.register c).map fun registry => { w with registry }

/-- Registers some commands in order, up to the first that is refused. -/
def registerAll (w : World κ) : List (Command κ) → Option RegistryError × World κ
  | [] => (none, w)
  | c :: rest =>
    match w.register c with
    | .error e => (some e, w)
    | .ok w' => w'.registerAll rest

/-- Removes a command, and gives it if there was one. -/
def unregister (w : World κ) (name : Text) : Option (Command κ) × World κ :=
  let (removed, registry) := w.registry.unregister name
  (removed, { w with registry })

/-- Prints some texts and lines in order and then answers with `reply`. What cannot be printed
ends the printing with an error. -/
def print (w : World κ) (reply : Reply) : List Print → Reply × World κ
  | [] => (reply, w)
  | p :: rest =>
    match w.out.print p with
    | (some e, out) => (.error e.message, { w with out })
    | (none, out) => { w with out }.print reply rest

/-- On a working stream everything is printed. -/
theorem print_of_not_full {w : World κ} (h : w.out.full = false) (reply : Reply)
    (ps : List Print) :
    w.print reply ps = (reply, { w with out := w.out.append (ps.flatMap Print.toText) }) := by
  induction ps generalizing w with
  | nil => simp [print]
  | cons p rest ih =>
    rw [print, Output.print_of_not_full h]
    simp [ih (w := { w with out := w.out.append p.toText }) h]

end World

end CommandConsole
