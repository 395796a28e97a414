import CommandConsole.Color

/-!
# Themes

A **theme** gives a colour to each **role** a token of a line can play: the name of a
command that exists, the name of one that does not, an unquoted argument, and a string with
its quotes.
-/

namespace CommandConsole

/-- What a token is on a line. -/
inductive Role where
  /-- The name of a registered command. -/
  | command
  /-- A name that no command has. -/
  | unknownCommand
  /-- An unquoted argument. -/
  | argument
  /-- A quoted argument, or a string that is not closed. -/
  | string
  deriving DecidableEq, Repr

namespace Role

/-- Whether the token is the name of its segment. -/
def isName : Role → Bool
  | command | unknownCommand => true
  | argument | string => false

end Role

/-- A colour for each role. -/
structure Theme where
  command : Color
  unknownCommand : Color
  argument : Color
  string : Color
  deriving DecidableEq, Repr

namespace Theme

/-- The colours used where nothing else is said. -/
def standard : Theme :=
  ⟨⟨0x4e, 0xc9, 0xb0⟩, ⟨0xf4, 0x47, 0x47⟩, ⟨0xd4, 0xd4, 0xd4⟩, ⟨0xce, 0x91, 0x78⟩⟩

instance : Inhabited Theme := ⟨standard⟩

/-- The colour of a role. -/
def color (t : Theme) : Role → Color
  | .command => t.command
  | .unknownCommand => t.unknownCommand
  | .argument => t.argument
  | .string => t.string

/-- With another colour for one role. -/
def withColor (t : Theme) (role : Role) (c : Color) : Theme :=
  match role with
  | .command => { t with command := c }
  | .unknownCommand => { t with unknownCommand := c }
  | .argument => { t with argument := c }
  | .string => { t with string := c }

end Theme

end CommandConsole
