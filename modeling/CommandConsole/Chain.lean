import CommandConsole.Argument
import CommandConsole.Registry
import CommandConsole.Token.Lexer

/-!
# Chains of invocations

A line that is to be run is resolved into a **chain**: the commands to call, in order. The
separators of a line cut its tokens into **segments**. The first token of a segment is the
name of a command, and the others are its arguments. A segment with no tokens, or with a
name nobody knows, is dropped; every other one becomes an **invocation**.

An invocation that follows a `;` is *independent*: it runs whatever happened before. One
that follows a `&` depends on the success of the invocation before it. The first invocation
of a chain has none before it and is always independent, whichever dropped segments and
separators precede it.

Resolution asks for every name once, in order, and the answer records the questions
(`Resolved.lookups`). It stops at the first segment with a known name and a malformed flag:
such a line is not to be run at all. Malformed flags after a name nobody knows are dropped
with their segment.

* `Chain.resolve` gives the chain or the error, and the names that were looked up;
* `Chain.parse` gives the chain or the error.
-/

namespace CommandConsole

/-- How a name is turned into a command. -/
abbrev Lookup (κ : Type) : Type := Text → Option (Command κ)

/-- One call of a command. -/
structure Invocation (κ : Type) where
  command : Command κ
  /-- The positional arguments, in the order of the line. -/
  arguments : List Text
  flags : FlagSet
  /-- Whether the call is made even after a failure. -/
  independent : Bool
  /-- The part of the line that the call is written in. -/
  span : Span
  deriving DecidableEq

namespace Invocation

variable {κ : Type}

/-- The name of the command called. -/
def name (i : Invocation κ) : Text := i.command.name

/-- Whether a flag is set. -/
def hasFlag (i : Invocation κ) (flag : Text) : Bool := decide (flag ∈ i.flags)

end Invocation

/-- The invocations of one line, in the order of their calls. -/
structure Chain (κ : Type) where
  invocations : List (Invocation κ)
  /-- From the first token of the line to the last. -/
  span : Span
  deriving DecidableEq

/-- A result or a syntax error, and the names looked up on the way. -/
structure Resolved (α : Type) where
  lookups : List Text
  result : Except SyntaxError α

namespace Resolved

variable {α β : Type}

/-- A result that needs no lookup. -/
def pure (a : α) : Resolved α := ⟨[], .ok a⟩

/-- Goes on with the result, if there is one; the lookups of both come in order. -/
def andThen (r : Resolved α) (f : α → Resolved β) : Resolved β :=
  match r.result with
  | .error e => ⟨r.lookups, .error e⟩
  | .ok a => ⟨r.lookups ++ (f a).lookups, (f a).result⟩

/-- Changes the result, if there is one. -/
def map (f : α → β) (r : Resolved α) : Resolved β :=
  ⟨r.lookups, r.result.map f⟩

end Resolved

namespace Chain

variable {κ : Type}

/-- The chain of a line without commands. -/
def empty : Chain κ := ⟨[], Span.emptyAt 0⟩

/-- The number of invocations. -/
def length (c : Chain κ) : Nat := c.invocations.length

/-- Whether there is nothing to call. -/
def isEmpty (c : Chain κ) : Bool := c.invocations.isEmpty

/-- The least span around some tokens in the order of the line. -/
def spanOf : List Token → Span
  | [] => Span.emptyAt 0
  | t :: ts => t.span.merge ((t :: ts).getLast (List.cons_ne_nil t ts)).span

/-- The invocation that a segment stands for, if any. -/
def resolveSegment (lookup : Lookup κ) (independent : Bool) (segment : List Token) :
    Resolved (List (Invocation κ)) :=
  match segment with
  | [] => .pure []
  | name :: rest =>
    match lookup name.text with
    | none => ⟨[name.text], .ok []⟩
    | some command =>
      let extraction := Argument.extractFlags (rest.map Argument.ofToken)
      match extraction.flags with
      | .error bad => ⟨[name.text], .error (.malformedFlag bad.text bad.span)⟩
      | .ok flags =>
        let arguments := extraction.left.map Argument.text
        ⟨[name.text], .ok [⟨command, arguments, flags, independent, spanOf (name :: rest)⟩]⟩

/-- Resolves the rest of a line. `first` says that there is no invocation yet, `last` is the
separator before the segment, and `segment` is what was already read of it. -/
def resolveFrom (lookup : Lookup κ) (first : Bool) (last : Separator) (segment : List Token) :
    List Token → Resolved (List (Invocation κ))
  | [] => resolveSegment lookup (first || last == .always) segment
  | t :: rest =>
    match t.kind with
    | .separator next =>
      (resolveSegment lookup (first || last == .always) segment).andThen fun done =>
        -- a dropped segment leaves the next one first, but its separator counts
        (resolveFrom lookup (first && done.isEmpty) next [] rest).map (done ++ ·)
    | _ => resolveFrom lookup first last (segment ++ [t]) rest

/-- Resolves a line, and keeps the names that were looked up. -/
def resolve (lookup : Lookup κ) (line : Text) : Resolved (Chain κ) :=
  match Token.tokenize line with
  | .error e => ⟨[], .error e⟩
  | .ok tokens =>
    (resolveFrom lookup true .always [] tokens).map fun invocations =>
      ⟨invocations, spanOf tokens⟩

/-- Resolves a line. -/
def parse (lookup : Lookup κ) (line : Text) : Except SyntaxError (Chain κ) :=
  (resolve lookup line).result

end Chain

end CommandConsole
