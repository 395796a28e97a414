import CommandConsole.Setting.Theme
import CommandConsole.Toml.Document

/-!
# Configuration

The configuration of a console program: its prompt, where and how much history it keeps,
what it logs, whether it uses colours, and which. Every key may be missing and has a default
then (`Config.default`); a key that means nothing, or a value of the wrong kind, makes the
configuration invalid.
-/

namespace CommandConsole

/-- The configuration of a console program. -/
structure Config where
  /-- What is shown before each line. -/
  prompt : Text
  /-- Where the history is kept, if not in the default place. -/
  historyFile? : Option Text
  /-- The largest number of entries in the history. -/
  historySize : Nat
  /-- What is logged, if the environment does not say. -/
  logLevel : Text
  /-- Whether colours are used, if that is not left to the terminal. -/
  color? : Option Bool
  theme : Theme
  deriving DecidableEq, Repr

namespace Config

/-- The configuration where nothing is said. -/
def default : Config := ⟨"> ", none, 1000, "warn", none, .standard⟩

instance : Inhabited Config := ⟨default⟩

/-- The keys of a configuration in their order. -/
def keys : List Text :=
  ["prompt", "history_file", "history_size", "log_level", "color", "highlight"]

/-- With the value of one key. -/
def set (c : Config) (key : Text) (value : Setting) : Except Setting.Error Config := do
  if key = "prompt" then pure { c with prompt := ← value.asText }
  else if key = "history_file" then pure { c with historyFile? := some (← value.asText) }
  else if key = "history_size" then pure { c with historySize := ← value.asCount }
  else if key = "log_level" then pure { c with logLevel := ← value.asText }
  else if key = "color" then pure { c with color? := some (← value.asBoolean) }
  else if key = "highlight" then pure { c with theme := ← Theme.ofSetting value }
  else .error (.unknownField key keys)

/-- With the values of some keys. -/
def setAll (c : Config) : List (Text × Setting) → Except Setting.Error Config
  | [] => .ok c
  | (key, value) :: rest => do setAll (← c.set key value) rest

/-- Reads a configuration. -/
def parse? (text : Text) : Option Config := do
  let top ← Toml.parse? text
  (default.setAll (Toml.toEntries top.entries)).toOption

/-- Where the history is kept, given the default place if there is one. -/
def historyPath (c : Config) (default? : Option Text) : Option Text :=
  c.historyFile?.or default?

end Config

end CommandConsole
