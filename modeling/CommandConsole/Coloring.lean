import CommandConsole.Highlight.Markup

/-!
# Whether to use colours

Colours are used or not according to the first of these that says something: the option
that forbids them; `NO_COLOR`, which forbids them if it is `1`; `COLOR`, which asks for them
if it is `1`; the configuration; and last, whether the output is a terminal.
-/

namespace CommandConsole

/-- What the surroundings of the program say about colours. -/
structure Coloring where
  /-- The value of `NO_COLOR`. -/
  noColor? : Option Text
  /-- The value of `COLOR`. -/
  color? : Option Text
  /-- Whether the output is a terminal. -/
  terminal : Bool
  deriving DecidableEq, Repr

namespace Coloring

/-- Whether colours are used, given whether an option forbids them and what the
configuration says. -/
def isOn (c : Coloring) (forbidden : Bool) (configured? : Option Bool) : Bool :=
  if forbidden then false
  else if c.noColor? = some ['1'] then false
  else if c.color? = some ['1'] then true
  else configured?.getD c.terminal

/-- The markup of a terminal, if colours are used. -/
def markup? (on : Bool) : Option Markup := if on then some .ansi else none

/-- The codes, in the terminal's palette of 256 colours, for the headers, the literals and
the placeholders of a usage text. -/
def usagePalette : List Nat := [74, 250, 245]

/-- The sequences that start the three styles of a usage text; empty where colours are not
used. -/
def usageStyles (c : Coloring) : List Text :=
  usagePalette.map fun code =>
    if c.isOn false none then Markup.escape ("38;5;" ++ toString code ++ "m") else []

end Coloring

end CommandConsole
