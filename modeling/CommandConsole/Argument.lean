import CommandConsole.FlagSet
import CommandConsole.Text.Letter
import CommandConsole.Token

/-!
# Arguments and flags

What follows a command's name are its **arguments**. An argument that starts with `?` and
goes on is meant as a flag:

* `?abc` sets one flag for every character, each of which has to be a letter;
* `??name` sets the one flag `name`, spelled in ASCII letters;
* anything else after the `?` is malformed, `??` alone included.

All others are **positional**, a lone `?` among them. `Argument.role` tells the three
apart, and `Argument.extractFlags` goes through a list of arguments from the last to the
first, taking the flags out and stopping at the first malformed one it meets, which is the
last one in the list.
-/

namespace CommandConsole

/-- An argument and where it stands in its line. -/
structure Argument where
  text : Text
  span : Span
  deriving DecidableEq, Repr

namespace Argument

/-- The character that starts a flag. -/
def flagMark : Char := '?'

/-- What an argument is for. -/
inductive Role where
  | positional
  /-- A flag argument and the flags it sets. -/
  | flags (names : List Text)
  | malformed
  deriving DecidableEq, Repr

/-- What an argument with this text is for. -/
def role (text : Text) : Role :=
  match text with
  | [] => .positional
  | mark :: body =>
    if mark ≠ flagMark || body.isEmpty then .positional
    else match body with
      | '?' :: c :: rest =>
        if (c :: rest).all Char.isAlpha then .flags [c :: rest] else .malformed
      | _ => if body.all isLetter then .flags (body.map fun c => [c]) else .malformed

/-- A token as an argument. -/
def ofToken (t : Token) : Argument := ⟨t.text, t.span⟩

/-- What taking the flags out of a list of arguments comes to. -/
structure Extraction where
  /-- All flags set, or the malformed argument that ended the extraction. -/
  flags : Except Argument FlagSet
  /-- The arguments left in the list. -/
  left : List Argument

/-- Takes the flags out of a list of arguments, from the last to the first. -/
def extractFlags : List Argument → Extraction
  | [] => ⟨.ok ∅, []⟩
  | a :: rest =>
    -- the arguments after this one come first
    let later := extractFlags rest
    match later.flags with
    | .error bad => ⟨.error bad, a :: later.left⟩
    | .ok flags =>
      match role a.text with
      | .positional => ⟨.ok flags, a :: later.left⟩
      | .flags names => ⟨.ok (flags.insertAll names), later.left⟩
      | .malformed => ⟨.error a, a :: later.left⟩

end Argument

end CommandConsole
