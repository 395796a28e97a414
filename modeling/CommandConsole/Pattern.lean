import CommandConsole.Text.Ranges

/-!
# Patterns

A **pattern** says which texts are meant: single characters out of a set, places in the
text, and combinations of these, one after the other, one or the other, or one repeated.
This module has the syntax. How patterns are written is in `Pattern.parse?`, and which
texts they accept in `Pattern.accepts`.

Both repetitions and choices have an order of preference. It matters here, because a text
is only accepted if the preferred way to match ends where the text ends.
-/

namespace CommandConsole

/-- A set of characters, given by their code points. -/
inductive CharSet where
  /-- The characters in some ranges, which need not ascend. -/
  | ranges (table : List (Nat × Nat))
  | union (a b : CharSet)
  | intersection (a b : CharSet)
  | difference (a b : CharSet)
  /-- The characters in just one of two sets. -/
  | symmetric (a b : CharSet)
  | complement (a : CharSet)
  /-- A set and the other case of each ASCII letter in it. -/
  | bothCases (a : CharSet)
  deriving DecidableEq, Repr

namespace CharSet

/-- No character. -/
def empty : CharSet := ranges []

/-- One character. -/
def single (c : Char) : CharSet := ranges [(c.toNat, c.toNat)]

/-- The other case of an ASCII letter, and any other code point itself. -/
def otherCase (n : Nat) : Nat :=
  if 0x41 ≤ n && n ≤ 0x5a then n + 0x20 else if 0x61 ≤ n && n ≤ 0x7a then n - 0x20 else n

/-- Whether a code point is in a set. -/
def contains : CharSet → Nat → Bool
  | ranges table, n => table.any fun r => r.1 ≤ n && n ≤ r.2
  | union a b, n => a.contains n || b.contains n
  | intersection a b, n => a.contains n && b.contains n
  | difference a b, n => a.contains n && !b.contains n
  | symmetric a b, n => a.contains n != b.contains n
  | complement a, n => !a.contains n
  | bothCases a, n => a.contains n || a.contains (otherCase n)

/-- The union of some sets. -/
def unionOf (sets : List CharSet) : CharSet := sets.foldl union empty

end CharSet

/-- A condition on a place in a text. -/
inductive Anchor where
  | textStart
  | textEnd
  | lineStart
  | lineEnd
  /-- Like `lineStart`, where a carriage return ends a line too, alone or with a line feed. -/
  | returnStart
  /-- Like `lineEnd`, where a carriage return ends a line too, alone or with a line feed. -/
  | returnEnd
  /-- Between a character of an ASCII word and something else. -/
  | wordEdge
  | noWordEdge
  | wordStart
  | wordEnd
  deriving DecidableEq, Repr

/-- A pattern. -/
inductive Pattern where
  /-- Nothing, which is everywhere. -/
  | empty
  | char (set : CharSet)
  | anchor (a : Anchor)
  | sequence (a b : Pattern)
  /-- The first is preferred. -/
  | choice (a b : Pattern)
  /-- Once or not at all; if `greedy`, once is preferred. -/
  | optional (greedy : Bool) (a : Pattern)
  /-- At least once; if `greedy`, more is preferred. -/
  | repeated (greedy : Bool) (a : Pattern)
  deriving DecidableEq, Repr

namespace Pattern

/-- Any number of times. -/
def star (greedy : Bool) (a : Pattern) : Pattern := optional greedy (repeated greedy a)

end Pattern

end CommandConsole
