import CommandConsole.Text.Printable

/-!
# Quoted text

Messages and diagnostics show a text that may hold anything between double quotes, so that
its ends and its invisible characters can be seen.

* `Text.quoted` writes one text. Quotes, backslashes and the usual controls take a
  backslash; every other character that is not printable, or that would merge with the one
  before it, is written as its code point, `\u` and lower-case hexadecimal digits in braces.
* `Text.quotedList` and `Text.quotedSet` write several between brackets or braces.
-/

namespace CommandConsole.Text

/-- The digits of a number in base sixteen, in lower case and without padding. -/
def hexDigits (n : Nat) : Text :=
  Nat.toDigits 16 n

/-- How a character is written between quotes. -/
def quotedChar (c : Char) : Text :=
  match c with
  | '"' => ['\\', '"']
  | '\\' => ['\\', '\\']
  | '\t' => ['\\', 't']
  | '\n' => ['\\', 'n']
  | '\r' => ['\\', 'r']
  | _ =>
    if c.toNat = 0 then ['\\', '0']
    else if isPrintable c && !isCombining c then [c]
    else ['\\', 'u', '\x7b'] ++ hexDigits c.toNat ++ ['\x7d']

/-- A text between double quotes. -/
def quoted (text : Text) : Text :=
  '"' :: text.flatMap quotedChar ++ ['"']

/-- Quoted texts in brackets. -/
def quotedList (texts : List Text) : Text :=
  '[' :: joinWith ", " (texts.map quoted) ++ [']']

/-- Quoted texts in braces. -/
def quotedSet (texts : List Text) : Text :=
  '\x7b' :: joinWith ", " (texts.map quoted) ++ ['\x7d']

end CommandConsole.Text
