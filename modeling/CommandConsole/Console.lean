import CommandConsole.Chain.Run
import CommandConsole.Highlight

/-!
# The console

A console reads a line, resolves it against the registry of its world, and runs it. The
whole line is resolved before anything of it runs: a line with a syntax error runs nothing,
and a command that changes the registry does not change the line it stands in.

A blank line is the empty chain without a look at the registry.

* `Console.parse` resolves a line;
* `Console.execute` resolves a line and runs it;
* `Console.events` tells what was dropped or rejected when a line was resolved.
-/

namespace CommandConsole.Console

variable {κ : Type}

/-- Resolves a line against a registry, blank lines at once, and keeps the names that were
looked up. -/
def resolve (registry : Registry κ) (line : Text) : Resolved (Chain κ) :=
  if (Text.trim line).isEmpty then .pure .empty else Chain.resolve registry.find? line

/-- Resolves a line against a registry. -/
def parse (registry : Registry κ) (line : Text) : Except SyntaxError (Chain κ) :=
  (resolve registry line).result

/-- The events of resolving a line. -/
def events (registry : Registry κ) (line : Text) : List Event :=
  let resolved := resolve registry line
  let dropped := (resolved.lookups.filter fun name => !registry.contains name).map
    Event.unknownCommand
  match resolved.result with
  | .ok _ => dropped
  | .error e => dropped ++ [.rejected line e]

/-- Resolves a line and runs it. A line with a syntax error leaves no new world. -/
def execute (perform : Perform κ) (line : Text) (w : World κ) :
    Except SyntaxError (Execution κ) :=
  (parse w.registry line).map fun chain => chain.run perform w

/-- A line in colours, its command names looked up in the registry. -/
def highlight (registry : Registry κ) (theme : Theme) (markup : Markup) (line : Text) : Text :=
  Highlight.render registry.contains theme markup line

end CommandConsole.Console
