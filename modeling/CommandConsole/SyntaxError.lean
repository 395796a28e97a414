import CommandConsole.Snippet

/-!
# Syntax errors

A line is rejected as a whole for one of two reasons: a quote is opened and never closed,
or an argument that looks like a flag is none. Each error carries the span of the offending
text, from which its message takes the position and its snippet the carets.
-/

namespace CommandConsole

/-- Why a line cannot be run. -/
inductive SyntaxError where
  /-- A quote that is never closed. The span runs from the quote to the end of the line. -/
  | unclosedQuote (span : Span)
  /-- An argument that starts like a flag but does not name any. -/
  | malformedFlag (flag : Text) (span : Span)
  deriving DecidableEq, Repr

namespace SyntaxError

/-- Where the offending text stands. -/
def span : SyntaxError → Span
  | unclosedQuote span => span
  | malformedFlag _ span => span

/-- The error in words, with the byte offset where it starts. -/
def message : SyntaxError → Text
  | unclosedQuote span => "incomplete string at position " ++ toString span.start
  | malformedFlag flag span =>
    "flags must only contain letters: '" ++ flag ++ "' at position " ++ toString span.start

/-- The part of the line around the error, with carets under the offending text. -/
def snippet (e : SyntaxError) (line : Text) (width : Nat) : Text :=
  e.span.snippet line width

/-- The error in a line that stands `n` bytes further on. -/
def shift (n : Nat) : SyntaxError → SyntaxError
  | unclosedQuote span => unclosedQuote (span.shift n)
  | malformedFlag flag span => malformedFlag flag (span.shift n)

end SyntaxError

end CommandConsole
