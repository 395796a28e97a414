import CommandConsole.Diagnostics.Event
import CommandConsole.Highlight.Markup

/-!
# Log lines

An event is shown as one line: its level, the call it happened in, a message, and the
fields of the event. `Event.line` says what each kind of event shows, and `LogLine.render`
writes it.

Whoever reads the log on a terminal may want styles. `LogStyle` says how the parts of a
line are set apart; `LogStyle.plain` leaves them as they are.
-/

namespace CommandConsole

/-- How much an event matters. -/
inductive Level where
  | error
  | warning
  | info
  | debug
  | trace
  deriving DecidableEq, Repr

namespace Level

/-- How talkative a log has to be to show events of a level. -/
def verbosity : Level → Nat
  | error => 1
  | warning => 2
  | info => 3
  | debug => 4
  | trace => 5

/-- The level as a line shows it, five characters wide. -/
def label : Level → Text
  | error => "ERROR"
  | warning => " WARN"
  | info => " INFO"
  | debug => "DEBUG"
  | trace => "TRACE"

/-- The code of a level's colour. -/
def colorCode : Level → Nat
  | error => 31
  | warning => 33
  | info => 32
  | debug => 34
  | trace => 35

end Level

/-- What an event shows. -/
structure LogLine where
  level : Level
  /-- The part of the program that the event comes from. -/
  target : Text
  /-- The call that the event happened in. -/
  call? : Option CallRecord
  message : Text
  /-- Names and values, the values as they are written. -/
  fields : List (Text × Text)
  /-- The names of the fields that are not shown. -/
  hidden : List Text
  deriving DecidableEq, Repr

/-- The names of all fields, of which the message is one. -/
def LogLine.fieldNames (l : LogLine) : List Text :=
  "message".toList :: l.fields.map Prod.fst ++ l.hidden

/-- What each kind of event shows. -/
def Event.line : Event → LogLine
  | .registered name =>
    ⟨.debug, "devcon_console::registry", none, "registered console command",
      [("command", Text.quoted name)], []⟩
  | .unknownCommand name =>
    ⟨.debug, "devcon_console::parser", none, "unknown command, segment dropped",
      [("command", Text.quoted name)], []⟩
  | .rejected line error =>
    ⟨.debug, "devcon_console::console", none, "rejected console line",
      [("line", Text.quoted line), ("error", error.message)], []⟩
  | .skipped name =>
    ⟨.debug, "devcon_console::exec::run", none, "skipped after failed predecessor",
      [("command", Text.quoted name)], []⟩
  | .errored call message =>
    ⟨.error, "devcon_console::exec::run", some call, "command failed with an error",
      [("command", Text.quoted call.name), ("error", message)], []⟩
  | .panicked call message =>
    ⟨.error, "devcon_console::exec::run", some call, "command panicked",
      [("command", Text.quoted call.name), ("panic", message)], []⟩
  | .reportLost reason =>
    ⟨.warning, "devcon::session", none, "failed to report syntax error", [("error", reason)], []⟩
  | .historyNotLoaded path reason =>
    ⟨.debug, "devcon::repl", none, "no history loaded", [("path", path), ("error", reason)], []⟩
  | .historyNotSaved path reason =>
    ⟨.warning, "devcon::repl", none, "failed to save history",
      [("path", path), ("error", reason)], []⟩
  | .badHistoryEscape entry =>
    ⟨.warning, "rustyline", none, "bad escaped line: " ++ entry, [],
      ["log.target", "log.module_path", "log.file", "log.line"]⟩

/-- The name under which calls are shown. -/
def CallRecord.spanName : Text := "console.cmd"

/-- The part of the program that makes the calls. -/
def CallRecord.target : Text := "devcon_console::exec::run"

/-- The fields of a call. -/
def CallRecord.fields (c : CallRecord) : List (Text × Text) :=
  [("cmd", c.name), ("args", Text.quotedList c.arguments), ("flags", Text.quotedSet c.flags)]

/-- The names of all fields that a call can have, those included that it gets when it has
ended. -/
def CallRecord.fieldNames : List Text := ["cmd", "args", "flags", "success", "duration_ms"]

/-- How the parts of a line are set apart: each part is written with a code of the
terminal, or as it is. -/
structure LogStyle where
  paint : Nat → Text → Text

namespace LogStyle

/-- Everything as it is. -/
def plain : LogStyle := ⟨fun _ text => text⟩

/-- With the codes of a terminal: 1 is bold, 2 is dim, 3 is italic. -/
def terminal : LogStyle :=
  ⟨fun code text => Markup.escape (toString code ++ "m") ++ text ++ Markup.escape "0m"⟩

/-- A field. -/
def field (s : LogStyle) (f : Text × Text) : Text :=
  s.paint 3 f.1 ++ s.paint 2 "=" ++ f.2

/-- The call that an event happened in. -/
def call (s : LogStyle) (c : CallRecord) : Text :=
  s.paint 1 CallRecord.spanName ++ s.paint 1 ['\x7b'] ++
    Text.joinWith " " (c.fields.map s.field) ++ s.paint 1 ['\x7d'] ++ s.paint 2 ":" ++ " "

end LogStyle

/-- A character of a message. Those that a terminal would obey are written as numbers. -/
def messageChar (c : Char) : Text :=
  let n := c.toNat
  if n = 0x1b || n = 0x07 || n = 0x08 || n = 0x0c || n = 0x7f then
    "\\x" ++ (if n < 0x10 then ['0'] else []) ++ Text.hexDigits n
  else if 0x80 ≤ n && n < 0xa0 then "\\u\x7b" ++ Text.hexDigits n ++ ['\x7d']
  else [c]

/-- Writes a line. `withCall` says whether the call is shown. -/
def LogLine.render (l : LogLine) (style : LogStyle) (withCall : Bool) : Text :=
  style.paint l.level.colorCode l.level.label ++ " " ++
    (if withCall then (l.call?.map style.call).getD [] else []) ++
    Text.joinWith " " (l.message.flatMap messageChar :: l.fields.map style.field) ++ "\n"

end CommandConsole
