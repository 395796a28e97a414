import CommandConsole.SyntaxError

/-!
# Events

While it works, a console tells what happens in **events**: a segment was dropped, a line
was rejected, a call failed. Events are data, and they are no part of the world that
commands act on: no command can see them. Which of them are shown, and how, is decided
elsewhere.

An event that happens during a call carries the call (`CallRecord`), because it is shown
with the call's name, arguments and flags. A `Note` is an event together with the place on
the error stream where it would be shown.
-/

namespace CommandConsole

/-- A call as diagnostics show it. -/
structure CallRecord where
  name : Text
  arguments : List Text
  flags : List Text
  deriving DecidableEq, Repr

/-- Something that happened while the console worked. -/
inductive Event where
  /-- A command was registered. -/
  | registered (name : Text)
  /-- A segment was dropped because nobody knows its name. -/
  | unknownCommand (name : Text)
  /-- A line was rejected for a syntax error. -/
  | rejected (line : Text) (error : SyntaxError)
  /-- A call was not made because the one before it failed. -/
  | skipped (name : Text)
  /-- A call ended with an error. -/
  | errored (call : CallRecord) (message : Text)
  /-- A call panicked. -/
  | panicked (call : CallRecord) (message : Text)
  /-- The report of a syntax error could not be written. -/
  | reportLost (reason : Text)
  /-- The history file could not be read. -/
  | historyNotLoaded (path reason : Text)
  /-- The history file could not be written. -/
  | historyNotSaved (path reason : Text)
  /-- An entry of the history file has an escape that means nothing. -/
  | badHistoryEscape (entry : Text)
  deriving DecidableEq, Repr

/-- An event, and how many characters were on the error stream when it happened. -/
structure Note where
  offset : Nat
  event : Event
  deriving DecidableEq, Repr

end CommandConsole
