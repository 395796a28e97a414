import CommandConsole.Color

/-!
# Markup

A **markup** says what is written for a run of text in a colour. A line can be highlighted in
any markup. Three of them are given here, the **dialects**: each puts one text in front of
the run and another behind it.

**Rich** markup wraps the run in `<color=#RRGGBB>` and `</color>`, as labels of user
interfaces understand it. **Ansi** markup uses the 24-bit foreground sequence of terminals
and the reset sequence after it. **Plain** markup has no colours. In none of them is the
text itself escaped.
-/

namespace CommandConsole

/-- A way to write coloured text. -/
structure Markup where
  /-- What is written for a run of text in a colour. -/
  paint : Color → Text → Text

/-- The sequence that starts with an escape character and a bracket. -/
def Markup.escape (body : Text) : Text := '\x1b' :: '[' :: body

/-- The dialects of markup that are given. -/
inductive Dialect where
  | rich
  | ansi
  | plain
  deriving DecidableEq, Repr

namespace Dialect

/-- What is written before a run of a colour. -/
def opening (d : Dialect) (c : Color) : Text :=
  match d with
  | rich => "<color=" ++ c.toText ++ ">"
  | ansi =>
    Markup.escape ("38;2;" ++ toString c.red.toNat ++ ";" ++ toString c.green.toNat ++ ";" ++
      toString c.blue.toNat ++ "m")
  | plain => []

/-- What is written after a coloured run. -/
def closing : Dialect → Text
  | rich => "</color>"
  | ansi => Markup.escape "0m"
  | plain => []

/-- The markup of a dialect. -/
def markup (d : Dialect) : Markup := ⟨fun c text => d.opening c ++ text ++ d.closing⟩

theorem paint_markup (d : Dialect) (c : Color) (text : Text) :
    d.markup.paint c text = d.opening c ++ text ++ d.closing := rfl

end Dialect

namespace Markup

/-- Rich markup. -/
def rich : Markup := Dialect.rich.markup

/-- Ansi markup. -/
def ansi : Markup := Dialect.ansi.markup

/-- No markup. -/
def plain : Markup := Dialect.plain.markup

@[simp] theorem paint_plain (c : Color) (text : Text) : plain.paint c text = text :=
  List.append_nil text

end Markup

end CommandConsole
