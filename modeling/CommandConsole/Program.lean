import CommandConsole.Coloring
import CommandConsole.Config.Load
import CommandConsole.Diagnostics.Filter
import CommandConsole.Exit
import CommandConsole.Options
import CommandConsole.Repl

/-!
# The program

The program does one of four things with a session: it shows a line in colours, runs the
lines its options give, runs the lines of its input, or runs lines at a prompt if the input
is a terminal. Before that it finds its configuration and its log filter. Its exit code is
that of the last line, or zero after a prompt.

All it needs to know from outside is in `Surroundings`, and all it does is in `Answer`:
`Program.run` is a function from one to the other.
-/

namespace CommandConsole

/-- What the program is surrounded by. -/
structure Surroundings where
  /-- The name of the build, which the version shows. -/
  build : Text
  /-- The configuration file that the environment names. -/
  configVariable? : Option Text
  /-- The log filter that the environment gives. -/
  logVariable? : Option Text
  coloring : Coloring
  /-- The default place of the configuration file. -/
  defaultConfig? : Option Text
  /-- The default place of the history file. -/
  defaultHistory? : Option Text
  files : FileTree

/-- Where the lines come from if no option gives them. -/
inductive Input where
  | stream (bytes : List UInt8)
  | terminal (readings : List Reading)

/-- What the program did. -/
structure Answer where
  code : Int
  out : Text
  err : Text
  files : FileTree
  /-- What was printed in answer to each reading at a prompt. -/
  printed : List Text

namespace Program

/-- What `--version` prints. -/
def versionText (build : Text) : Text := "devcon 0.1.0+" ++ build ++ "\n"

/-- What `--help` prints. -/
def helpText : Text :=
  "Developer console: run `;`/`&` command chains\n\nUsage: devcon [OPTIONS]\n\nOptions:\n" ++
  "      --config <PATH>     Config file " ++
    "[default: $DEVCON_CONFIG or <config dir>/devcon/config.toml]\n" ++
  "      --no-color          Disable colour output\n" ++
  "  -c, --command <LINE>    Run LINE and exit; repeat to run several lines in order\n" ++
  "      --highlight <LINE>  Print LINE as rich-text highlight markup and exit\n" ++
  "  -h, --help              Print help\n" ++
  "  -V, --version           Print version\n"

/-- What is printed when the arguments make no sense. -/
def misuseText : Text :=
  "error: invalid arguments\n\nUsage: devcon [OPTIONS]\n\nFor more information, try '--help'.\n"

/-- The log filter: the environment's if it gives one, else the configuration's. -/
def logFilter (fromEnv? : Option Text) (config : Config) : Except FilterError Filter :=
  Filter.firstOf ((fromEnv?.filter fun text => !text.isEmpty).toList ++ [config.logLevel])

/-- How log lines are set: with the codes of a terminal, unless `NO_COLOR` is set to
something. -/
def logStyle (coloring : Coloring) : LogStyle :=
  if coloring.noColor?.any fun text => !text.isEmpty then .plain else .terminal

/-- The configuration that the options and the surroundings give. -/
def config (s : Surroundings) (o : Options) : Except ConfigError Config :=
  Config.load s.files o.configPath? s.configVariable? s.defaultConfig?

/-- The end of a run that has said all there is to say. -/
def finish (status : Status) : Exit := .silent status.exitCode

/-- The exit code after a failure that nobody handles. -/
def crashCode : Int := 101

/-- Runs the program under a configuration and a log filter. -/
def runFiltered (s : Surroundings) (o : Options) (c : Config) (filter : Filter)
    (input : Input) : Answer :=
  let start : World Builtin := Session.start id
  let told (w : World Builtin) (notes : List Note) : Text :=
    filter.render (logStyle s.coloring) w.err.written (Session.startNotes ++ notes)
  let ran (lines : List Text) : Answer :=
    let run := Session.runLines Builtin.perform lines start
    ⟨(finish run.status).code, run.world.out.written, told run.world run.notes, s.files, []⟩
  match o.highlight? with
  | some line =>
    let line := Console.highlight start.registry c.theme .rich line ++ "\n"
    ⟨0, line, told start [], s.files, []⟩
  | none =>
    if !o.commands.isEmpty then ran o.commands
    else match input with
      | .stream bytes => ran (Reading.lines (Reading.ofStream bytes))
      | .terminal readings =>
        let (run, files) := Repl.run Builtin.perform [] c.historySize
          (c.historyPath s.defaultHistory?) readings s.files start
        ⟨0, run.world.out.written, told run.world run.notes, files, run.printed⟩

/-- Runs the program under a configuration. A log filter that cannot be cut into its parts is
the end of it. -/
def runConfigured (s : Surroundings) (o : Options) (c : Config) (input : Input) : Answer :=
  match logFilter s.logVariable? c with
  | .ok filter => runFiltered s o c filter input
  | .error _ => ⟨crashCode, [], [], s.files, []⟩

/-- Runs the program. -/
def run (s : Surroundings) (arguments : List Text) (input : Input) : Answer :=
  match Options.parse arguments with
  | .help => ⟨0, helpText, [], s.files, []⟩
  | .version => ⟨0, versionText s.build, [], s.files, []⟩
  | .misuse => ⟨2, [], misuseText, s.files, []⟩
  | .run o =>
    match config s o with
    | .error e => ⟨1, [], "error: " ++ e.explanation ++ "\n", s.files, []⟩
    | .ok c => runConfigured s o c input

end Program

end CommandConsole
