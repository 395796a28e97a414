import CommandConsole.Text.Basic

/-!
# Spans

A **span** is a range of byte offsets in a line, `start` included and `stop` excluded. It
says where a token, an invocation or an error stands. Nothing keeps `start` below `stop`:
a span with its ends the wrong way round is a span of length nothing, and `Span.slice`
finds no text there.

* `Span.merge` is the least span around two;
* `Span.shift` moves a span along with the text it stands in.
-/

namespace CommandConsole

/-- A range of byte offsets, `start` included and `stop` excluded. -/
structure Span where
  start : Nat
  stop : Nat
  deriving DecidableEq, Repr

namespace Span

/-- The empty span at an offset. -/
def emptyAt (pos : Nat) : Span := ⟨pos, pos⟩

/-- The number of bytes spanned, none if the ends are the wrong way round. -/
def length (s : Span) : Nat := s.stop - s.start

/-- Whether both ends are the same. -/
def isEmpty (s : Span) : Bool := s.start == s.stop

/-- Whether an offset lies in the span. -/
def contains (s : Span) (pos : Nat) : Bool := s.start ≤ pos && pos < s.stop

/-- The least span around two. -/
def merge (s t : Span) : Span := ⟨min s.start t.start, max s.stop t.stop⟩

/-- The span `n` bytes further on. -/
def shift (n : Nat) (s : Span) : Span := ⟨s.start + n, s.stop + n⟩

/-- The spanned part of a line, and nothing where the span is no slice of it. -/
def slice (s : Span) (line : Text) : Text := Text.slice line s.start s.stop

end Span

end CommandConsole
