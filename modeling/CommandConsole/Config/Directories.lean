import CommandConsole.FileTree

/-!
# The user's directories

Configuration and data each have a directory of their own. The environment may name it, by
an absolute path; any other path is passed over, and then the directory stands at its usual
place under the user's home. Without a home there may be none.

`UserDirectories.configFile?` and `UserDirectories.historyFile?` are the default places of
the two files that the program keeps there.
-/

namespace CommandConsole

/-- What is known of the user's directories. -/
structure UserDirectories where
  /-- The directory for configuration that the environment names. -/
  config? : Option Text
  /-- The directory for data that the environment names. -/
  data? : Option Text
  home? : Option Text
  deriving DecidableEq, Repr

namespace UserDirectories

/-- A path inside of a directory. -/
def inside (directory path : Text) : Text :=
  if directory.isEmpty || directory.getLast? = some '/' then directory ++ path
  else directory ++ '/' :: path

/-- A path inside of the directory that is named, or of the usual one under the home. -/
def place? (named? home? : Option Text) (usual path : Text) : Option Text :=
  match named?.filter FileTree.isAbsolute with
  | some directory => some (inside directory path)
  | none =>
    (home?.filter fun home => !home.isEmpty).map fun home => inside (inside home usual) path

/-- The default place of the configuration file. -/
def configFile? (d : UserDirectories) : Option Text :=
  place? d.config? d.home? ".config" "devcon/config.toml"

/-- The default place of the history file. -/
def historyFile? (d : UserDirectories) : Option Text :=
  place? d.data? d.home? ".local/share" "devcon/history.txt"

end UserDirectories

end CommandConsole
