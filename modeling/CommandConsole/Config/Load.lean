import CommandConsole.Config
import CommandConsole.FileTree

/-!
# Finding the configuration

The configuration is read from the first of these: the file an option names, the file that
the environment names if it names one, and the file in the default place if there is one.
A file that is named has to be there. Where there is none of them, the default
configuration holds.

* `Config.source?` says which file is read;
* `Config.load` reads it.
-/

namespace CommandConsole

/-- Why there is no configuration. -/
inductive ConfigError where
  /-- The file could not be read. -/
  | unreadable (path : Text) (reason : FileError)
  /-- The file holds no valid configuration. -/
  | invalid (path : Text)
  deriving DecidableEq, Repr

namespace ConfigError

/-- The error in words. -/
def message : ConfigError → Text
  | unreadable path _ => "failed to read config " ++ path
  | invalid path => "invalid config " ++ path

/-- The error in words, with the reason where there is one. -/
def explanation : ConfigError → Text
  | unreadable path reason => (unreadable path reason).message ++ ": " ++ reason.message
  | invalid path => (invalid path).message

end ConfigError

namespace Config

/-- The file that the configuration is read from. `default?` is the default place. -/
def source? (files : FileTree) (option? fromEnv? default? : Option Text) : Option Text :=
  (option?.or (fromEnv?.filter fun path => !path.isEmpty)).or (default?.filter files.contains)

/-- Reads the configuration from a file. -/
def ofFile (files : FileTree) (path : Text) : Except ConfigError Config :=
  match files.read path with
  | .error reason => .error (.unreadable path reason)
  | .ok content =>
    match parse? content with
    | some config => .ok config
    | none => .error (.invalid path)

/-- Reads the configuration. -/
def load (files : FileTree) (option? fromEnv? default? : Option Text) :
    Except ConfigError Config :=
  match source? files option? fromEnv? default? with
  | some path => ofFile files path
  | none => .ok default

end Config

end CommandConsole
