import CommandConsole.Span

/-!
# Tokens

A line is made of **words**, **quoted** strings and **separators**. A word stands for
itself. A quoted string stands for what is between its quotes, escapes kept as written. A
quote that nobody closes is no token of a line that is to be run; for display it counts as
an `unterminated` string to the end of the line.

The two separators end one command and start the next: `;` starts it **always**, `&` only
**on success** of the one before.
-/

namespace CommandConsole

/-- When the command after a separator runs. -/
inductive Separator where
  /-- `;`: regardless of what happened before. -/
  | always
  /-- `&`: only after a success. -/
  | onSuccess
  deriving DecidableEq, Repr

namespace Separator

/-- The character that writes a separator. -/
def mark : Separator → Char
  | .always => ';'
  | .onSuccess => '&'

end Separator

/-- What a token is. -/
inductive Token.Kind where
  /-- A run of characters taken as they are. -/
  | word (text : Text)
  /-- The text between two quotes, escapes as written. -/
  | quoted (text : Text)
  /-- The text after a quote that is never closed. -/
  | unterminated (text : Text)
  | separator (which : Separator)
  deriving DecidableEq, Repr

namespace Token.Kind

/-- What a token contributes to a command, if it is not a separator. -/
def text? : Kind → Option Text
  | word text | quoted text | unterminated text => some text
  | separator _ => none

/-- Whether a token ends a command. -/
def isSeparator : Kind → Bool
  | separator _ => true
  | _ => false

/-- A name for the token in messages. -/
def describe : Kind → Text
  | word text => "word '" ++ text ++ "'"
  | quoted text => "string \"" ++ text ++ "\""
  | unterminated text => "incomplete string \"" ++ text
  | separator which => ['\'', which.mark, '\'']

end Token.Kind

/-- A token and where it stands in its line. -/
structure Token where
  kind : Token.Kind
  span : Span
  deriving DecidableEq, Repr

namespace Token

/-- What a token contributes to a command; nothing, for a separator. -/
def text (t : Token) : Text := t.kind.text?.getD []

/-- The token `n` bytes further on. -/
def shift (n : Nat) (t : Token) : Token := { t with span := t.span.shift n }

end Token

end CommandConsole
