import CommandConsole.Span

/-!
# Snippets

A **snippet** shows an error in its line: the part of the line around the error, and on
the next line a row of carets under the offending characters.

    echo "abc
         ^^^^

The **anchor** is where the span starts, moved back to a character boundary and into the
line. At most `width` characters are shown before it, and one more than that from it on.
The carets begin under the anchor and cover the shown characters that end inside the span,
but there is always at least one of them.

The offsets are numbers of any size, so a width as large as can be shows the whole line.
-/

namespace CommandConsole

/-- What a snippet is made of. -/
structure Snippet where
  /-- The characters shown before the anchor. -/
  before : Text
  /-- The characters shown from the anchor on. -/
  after : Text
  /-- The number of carets, which start under the anchor. -/
  carets : Nat

namespace Snippet

/-- The part of `line` around the start of `span`, `width` characters to either side. -/
def ofSpan (line : Text) (span : Span) (width : Nat) : Snippet :=
  let (before, after) := Text.splitFloor span.start line
  let shown := after.take (width + 1)
  -- the shown characters that end inside the span
  let marked := (Text.splitFloor (span.stop - Text.byteLength before) shown).1
  { before := before.drop (before.length - width)
    after := shown
    carets := max 1 marked.length }

/-- The two lines of a snippet, without a line feed after the second. -/
def render (s : Snippet) : Text :=
  s.before ++ s.after ++ ['\n'] ++ List.replicate s.before.length ' ' ++
    List.replicate s.carets '^'

end Snippet

/-- The rendered snippet of a span. -/
def Span.snippet (span : Span) (line : Text) (width : Nat) : Text :=
  (Snippet.ofSpan line span width).render

end CommandConsole
