import CommandConsole.Text.Upper
import CommandConsole.World

/-!
# Builtin commands

Every session starts with eight commands: `help`, `echo`, `true`, `false`, `fail`, `exit`,
`quit`, and `panic`, which is hidden.

`help` alone lists the visible commands in the order of their registration. Each line has
the name, padded with spaces, two more spaces, and the description, without blanks at the
end. The padding makes all names as wide as the longest one has bytes, which is at least as
many as it has characters, so the descriptions start in one column. A width is a number of
sixteen bits; a listing that would need a greater one panics and prints nothing.

The builtins do not care what else is registered: `Builtin.perform` gives their callbacks
in a world with actions of any type.
-/

namespace CommandConsole

/-- The actions of the builtin commands. -/
inductive Builtin where
  | help
  | echo
  /-- Succeeds and does nothing. -/
  | succeed
  /-- Fails and does nothing. -/
  | refuse
  /-- Fails with an error message. -/
  | fail
  /-- Ends the session. -/
  | exit
  | panic
  deriving DecidableEq, Repr

namespace Builtin

variable {κ : Type}

/-- The builtin commands in the order of their registration. -/
def commands : List (Command Builtin) :=
  [⟨"help", "List commands, or describe one", "help [command]", false, help⟩,
   ⟨"echo", "Print arguments separated by spaces", "echo [text...] [?n] [??upper]", false, echo⟩,
   ⟨"true", "Succeed without doing anything", [], false, succeed⟩,
   ⟨"false", "Fail without doing anything", [], false, refuse⟩,
   ⟨"fail", "Fail with an error message", "fail [message...]", false, fail⟩,
   ⟨"exit", "End the session", [], false, exit⟩,
   ⟨"quit", "Same as exit", [], false, exit⟩,
   ⟨"panic", [], [], true, panic⟩]

/-- A text followed by spaces until it has `width` characters. -/
def pad (width : Nat) (text : Text) : Text :=
  text ++ List.replicate (width - text.length) ' '

/-- The width that the names of a listing are padded to. -/
def listingWidth (listed : List (Command κ)) : Nat :=
  (listed.map fun c => Text.byteLength c.name).foldl max 0

/-- One line of a listing, without its line feed. -/
def listingEntry (width : Nat) (c : Command κ) : Text :=
  Text.trimEnd (pad width c.name ++ "  " ++ c.description)

/-- The lines of the listing of a registry, without their line feeds. -/
def listing (registry : Registry κ) : List Text :=
  registry.visible.map (listingEntry (listingWidth registry.visible))

/-- The lines that describe a command, without their line feeds. -/
def description (c : Command κ) : List Text :=
  let usage := if c.usage.isEmpty then c.name else c.usage
  ("usage: " ++ usage) :: if c.description.isEmpty then [] else [c.description]

/-- The greatest width that a text can be padded to. -/
def widthLimit : Nat := 0xffff

/-- Lists the commands, if the names are not too long for a listing. -/
def performListing (w : World κ) : Reply × World κ :=
  if listingWidth w.registry.visible ≤ widthLimit then
    w.print .success ((listing w.registry).map Print.line)
  else (.panic (some "Formatting argument out of range"), w)

/-- What `help` does: it lists the commands, or describes the one it is asked about. -/
def performHelp : Callback κ := fun i w =>
  -- further arguments are ignored
  match i.arguments with
  | [] => performListing w
  | name :: _ =>
    match w.registry.find? name with
    | none => w.print .failure [.line ("unknown command: " ++ name)]
    | some c => w.print .success ((description c).map Print.line)

/-- What `echo` does: it prints its arguments, in upper case under the flag `upper`, and
without a line feed under the flag `n`. -/
def performEcho : Callback κ := fun i w =>
  let text := Text.joinWith " " i.arguments
  let text := if i.hasFlag "upper" then Text.upper text else text
  w.print .success [if i.hasFlag "n" then .text text else .line text]

/-- The arguments as one message, or another message if there are none. -/
def messageOr (default : Text) (i : Invocation κ) : Text :=
  if i.arguments.isEmpty then default else Text.joinWith " " i.arguments

/-- What the builtin commands do. -/
def perform : Builtin → Callback κ
  | help => performHelp
  | echo => performEcho
  | succeed => fun _ w => (.success, w)
  | refuse => fun _ w => (.failure, w)
  | fail => fun i w => (.error (messageOr "failed" i), w)
  | exit => fun _ w => (.success, { w with exitRequested := true })
  | panic => fun i w => (.panic (some (messageOr "panic requested" i)), w)

end Builtin

end CommandConsole
