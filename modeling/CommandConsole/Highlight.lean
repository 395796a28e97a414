import CommandConsole.Highlight.Markup
import CommandConsole.Highlight.Theme
import CommandConsole.Token.Lexer

/-!
# Highlighting a line

A line that is still being typed is shown in colours. It is read in the forgiving way, so
that highlighting never fails, and every token but the separators gets a role: the first
token of a segment is the name of a command, known or not; the others are arguments or
strings; and a string that is not closed is a string wherever it stands.

* `Highlight.assign` gives the roles. To find the role of a name, it asks whether the name
  is known, and it keeps a record of what it asked;
* `Highlight.highlight` writes the line, its tokens painted and all between them as it is,
  and gives the names that were asked for, in order;
* `Highlight.render` and `Highlight.lookups` are the one and the other.
-/

namespace CommandConsole.Highlight

/-- A token and the role it plays; separators play none. -/
structure Assigned where
  token : Token
  role? : Option Role
  /-- The name that was asked for to find the role, if one was. -/
  asked? : Option Text
  deriving DecidableEq, Repr

/-- The role of a name. -/
def nameRole (known : Text → Bool) (name : Text) : Role :=
  if known name then .command else .unknownCommand

/-- A token that is a name: whether it is known decides its role. -/
def askFor (known : Text → Bool) (t : Token) (name : Text) : Assigned :=
  ⟨t, some (nameRole known name), some name⟩

/-- Gives each token its role. `atName` says that the next token names a command. -/
def assign (known : Text → Bool) (atName : Bool) : List Token → List Assigned
  | [] => []
  | t :: rest =>
    match t.kind with
    | .separator _ => ⟨t, none, none⟩ :: assign known true rest
    | .unterminated _ => ⟨t, some .string, none⟩ :: assign known atName rest
    | .word text =>
      (if atName then askFor known t text else ⟨t, some .argument, none⟩) ::
        assign known false rest
    | .quoted text =>
      (if atName then askFor known t text else ⟨t, some .string, none⟩) ::
        assign known false rest

/-- The roles of the tokens of a line. -/
def roles (known : Text → Bool) (line : Text) : List Assigned :=
  assign known true (Token.tokenizeLossy line)

/-- Writes the line from byte `cursor` on, given the tokens that start there or later. -/
def renderFrom (line : Text) (theme : Theme) (markup : Markup) (cursor : Nat) :
    List Assigned → Text
  | [] => Text.slice line cursor (Text.byteLength line)
  | a :: rest =>
    let source := a.token.span.slice line
    let painted := match a.role? with
      | none => source
      | some role => markup.paint (theme.color role) source
    Text.slice line cursor a.token.span.start ++ painted ++
      renderFrom line theme markup a.token.span.stop rest

/-- What highlighting a line comes to. -/
structure Highlighted where
  /-- The line with its tokens painted. -/
  text : Text
  /-- The names that were asked for on the way, in order. -/
  lookups : List Text
  deriving DecidableEq, Repr

/-- Highlights a line: gives its tokens their roles and paints them. -/
def highlight (known : Text → Bool) (theme : Theme) (markup : Markup) (line : Text) :
    Highlighted :=
  let assigned := roles known line
  ⟨renderFrom line theme markup 0 assigned, assigned.filterMap Assigned.asked?⟩

/-- Writes a line with its tokens painted by their roles. -/
def render (known : Text → Bool) (theme : Theme) (markup : Markup) (line : Text) : Text :=
  (highlight known theme markup line).text

theorem render_eq_renderFrom (known : Text → Bool) (theme : Theme) (markup : Markup)
    (line : Text) :
    render known theme markup line = renderFrom line theme markup 0 (roles known line) := rfl

/-- The names that are asked for while a line is highlighted, in whatever theme and markup. -/
def lookups (known : Text → Bool) (line : Text) : List Text :=
  (highlight known .standard .plain line).lookups

theorem lookups_highlight (known : Text → Bool) (theme : Theme) (markup : Markup)
    (line : Text) : (highlight known theme markup line).lookups = lookups known line := rfl

end CommandConsole.Highlight
