import CommandConsole.Text.Basic

/-!
# Options of the program

The program takes options and nothing else. An option has a long name, and some have a
short one. The value of an option follows it as the next argument, or is attached: after an
equals sign, or, for a short name, directly. A next argument that looks like an option is
no value, and a lone `-` does not look like one.

Arguments are read in order. `--help` and `--version` end the reading where they stand, and
so does the first mistake: an unknown option, a missing or unwanted value, an option given
twice that is not meant to be, or an argument that is no option. An argument `--` says that
no options follow, and then nothing may follow at all. That two options exclude each other
is found only at the end.
-/

namespace CommandConsole

/-- What the arguments of the program ask for. -/
structure Options where
  configPath? : Option Text
  noColor : Bool
  /-- The lines to run, in order. -/
  commands : List Text
  /-- The line to show in colours. -/
  highlight? : Option Text
  deriving DecidableEq, Repr

namespace Options

/-- No options. -/
def none : Options := ⟨.none, false, [], .none⟩

/-- What the program is asked to do. -/
inductive Request where
  | run (options : Options)
  | help
  | version
  /-- The arguments make no sense. -/
  | misuse
  deriving DecidableEq, Repr

/-- What an option is. -/
inductive Kind where
  | config
  | noColor
  | command
  | highlight
  | help
  | version
  deriving DecidableEq, Repr

namespace Kind

/-- The option of a long name. -/
def ofLong? (name : Text) : Option Kind :=
  [("config", config), ("no-color", noColor), ("command", command), ("highlight", highlight),
    ("help", help), ("version", version)].lookup (String.ofList name)

/-- The option of a short name. -/
def ofShort? : Char → Option Kind
  | 'c' => some command
  | 'h' => some help
  | 'V' => some version
  | _ => .none

/-- Whether an option has a value. -/
def hasValue : Kind → Bool
  | config | command | highlight => true
  | noColor | help | version => false

end Kind

/-- With one more option and its value. A path cannot be empty, and only commands can be
given more than once. -/
def add? (o : Options) (kind : Kind) (value : Text) : Option Options :=
  match kind with
  | .config =>
    if o.configPath?.isSome || value.isEmpty then .none
    else some { o with configPath? := some value }
  | .command => some { o with commands := o.commands ++ [value] }
  | .highlight => if o.highlight?.isSome then .none else some { o with highlight? := some value }
  | .noColor => if o.noColor then .none else some { o with noColor := true }
  | .help | .version => some o

/-- One argument taken apart. -/
inductive Piece where
  /-- An option, and the value attached to it. -/
  | option (kind : Kind) (attached? : Option Text)
  /-- The end of the options. -/
  | endOfOptions
  /-- An unknown option, or no option at all. -/
  | other
  deriving DecidableEq, Repr

/-- Takes an argument apart. -/
def Piece.of (argument : Text) : Piece :=
  match argument with
  | ['-', '-'] => endOfOptions
  | '-' :: '-' :: long =>
    let name := long.takeWhile (· ≠ '=')
    let attached? := match long.dropWhile (· ≠ '=') with
      | _ :: value => some value
      | [] => .none
    match Kind.ofLong? name with
    | some kind => option kind attached?
    | .none => other
  | '-' :: short :: rest =>
    match Kind.ofShort? short with
    | some kind =>
      if !kind.hasValue then option kind .none
      else match rest with
        | [] => option kind .none
        | '=' :: value => option kind (some value)
        | value => option kind (some value)
    | .none => other
  | _ => other

/-- Whether an argument looks like an option. -/
def looksLikeOption (argument : Text) : Bool :=
  argument.head? == some '-' && argument.length ≠ 1

/-- What options ask for once all arguments are read. -/
def request (o : Options) : Request :=
  if !o.commands.isEmpty && o.highlight?.isSome then .misuse else .run o

/-- What an option without a value asks for: an answer at once, or to go on with more
options. -/
def flag (o : Options) (kind : Kind) : Request ⊕ Options :=
  match kind with
  | .help => .inl .help
  | .version => .inl .version
  | _ =>
    match o.add? kind [] with
    | some o' => .inr o'
    | .none => .inl .misuse

/-- Reads the arguments after those that gave the options so far. -/
def parseFrom (o : Options) (arguments : List Text) : Request :=
  match arguments with
  | [] => o.request
  | argument :: rest =>
    match Piece.of argument with
    | .other => .misuse
    | .endOfOptions => if rest.isEmpty then o.request else .misuse
    | .option kind attached? =>
      if kind.hasValue then
        match attached? with
        | some value =>
          match o.add? kind value with
          | some o' => parseFrom o' rest
          | .none => .misuse
        | .none =>
          -- the value is the next argument, unless that is an option itself
          match rest with
          | [] => .misuse
          | value :: rest' =>
            if looksLikeOption value then .misuse
            else match o.add? kind value with
              | some o' => parseFrom o' rest'
              | .none => .misuse
      else if attached?.isSome then .misuse
      else match o.flag kind with
        | .inl request => request
        | .inr o' => parseFrom o' rest

/-- Reads the arguments of the program. -/
def parse (arguments : List Text) : Request := none.parseFrom arguments

end Options

end CommandConsole
