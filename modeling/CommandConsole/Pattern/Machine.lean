import CommandConsole.Pattern
import CommandConsole.Text.Basic

/-!
# Which texts a pattern accepts

A pattern is compiled to a short **program**, and the program is run on the bytes of a text
by **threads** in the order of their preference. All threads go forward together, byte by
byte. There is at most one at each instruction: of two that meet, the preferred one stays.

A match may start anywhere in the text, earlier starts being preferred. A thread that has
matched ends all those after it, and is gone itself with the next byte. So a pattern accepts
a text if at its end there is a thread that has just matched: the preferred match has to
reach the end of the text, but need not start where the text starts.
-/

namespace CommandConsole

namespace Pattern

/-- An instruction of a program. Those that are not jumps go on with the next one. -/
inductive Instruction where
  /-- Takes the bytes of a character of a set. -/
  | char (set : CharSet)
  /-- Takes any byte. -/
  | byte
  | anchor (a : Anchor)
  /-- Goes on at two places, the first one preferred. -/
  | fork (first second : Nat)
  | jump (target : Nat)
  | done
  deriving DecidableEq, Repr

/-- A fork that prefers its first place or its second one. -/
def fork (preferFirst : Bool) (first second : Nat) : Instruction :=
  if preferFirst then .fork first second else .fork second first

/-- The instructions of a pattern, to stand at place `start` of a program. -/
def compile (start : Nat) : Pattern → List Instruction
  | empty => []
  | char set => [.char set]
  | anchor a => [.anchor a]
  | sequence a b =>
    let first := compile start a
    first ++ compile (start + first.length) b
  | choice a b =>
    let first := compile (start + 1) a
    let between := start + 1 + first.length + 1
    let second := compile between b
    .fork (start + 1) between :: first ++ .jump (between + second.length) :: second
  | optional greedy a =>
    let body := compile (start + 1) a
    fork greedy (start + 1) (start + 1 + body.length) :: body
  | repeated greedy a =>
    let body := compile start a
    body ++ [fork greedy start (start + body.length + 1)]

/-- The program of a pattern. Its first three instructions pass over any number of bytes, but
prefer to start at once. -/
def program (p : Pattern) : Array Instruction :=
  let start := [Instruction.fork 3 1, .byte, .jump 0]
  (start ++ compile 3 p ++ [Instruction.done]).toArray

/-- A place between two bytes of a text. -/
structure Place where
  before? : Option UInt8
  after? : Option UInt8

/-- Whether a byte belongs to an ASCII word. -/
def isWordByte (b : UInt8) : Bool :=
  (Char.ofNat b.toNat).isAlphanum || b == 95

/-- Whether a condition holds at a place. -/
def Place.satisfies (p : Place) : Anchor → Bool
  | .textStart => p.before? = none
  | .textEnd => p.after? = none
  | .lineStart => p.before? = none || p.before? = some 10
  | .lineEnd => p.after? = none || p.after? = some 10
  | .returnStart =>
    p.before? = none || p.before? = some 10 || (p.before? = some 13 && p.after? ≠ some 10)
  | .returnEnd =>
    p.after? = none || p.after? = some 13 || (p.after? = some 10 && p.before? ≠ some 13)
  | .wordEdge => p.before?.any isWordByte != p.after?.any isWordByte
  | .noWordEdge => p.before?.any isWordByte == p.after?.any isWordByte
  | .wordStart => !p.before?.any isWordByte && p.after?.any isWordByte
  | .wordEnd => p.before?.any isWordByte && !p.after?.any isWordByte

/-- A thread: where it stands in the program, and the character it has begun to take. -/
structure Thread where
  position : Nat
  /-- The bits of the character so far. -/
  bits : Nat
  /-- How many bytes of the character are still to come. -/
  missing : Nat
  deriving DecidableEq, Repr

/-- A thread that has begun no character. -/
def Thread.at (position : Nat) : Thread := ⟨position, 0, 0⟩

/-- Lets threads go on until each stands before a byte or has matched. `todo` are the threads
in order, and `seen` are the positions where one has been. -/
def settle (code : Array Instruction) (place : Place) :
    Nat → List Nat → List Thread → List Thread
  | 0, _, _ => []
  | _ + 1, _, [] => []
  | bound + 1, seen, t :: todo =>
    if 0 < t.missing then t :: settle code place bound seen todo
    else if seen.contains t.position then settle code place bound seen todo
    else
      let seen := t.position :: seen
      match code[t.position]? with
      | none => settle code place bound seen todo
      | some (.fork a b) => settle code place bound seen (.at a :: .at b :: todo)
      | some (.jump a) => settle code place bound seen (.at a :: todo)
      | some (.anchor a) =>
        if place.satisfies a then settle code place bound seen (.at (t.position + 1) :: todo)
        else settle code place bound seen todo
      | some _ => t :: settle code place bound seen todo

/-- How a byte is taken as the first one of a character: its bits, and how many bytes have to
follow. -/
def leadByte? (b : UInt8) : Option (Nat × Nat) :=
  if b < 0x80 then some (b.toNat, 0)
  else if b < 0xc0 then none
  else if b < 0xe0 then some (b.toNat - 0xc0, 1)
  else if b < 0xf0 then some (b.toNat - 0xe0, 2)
  else some (b.toNat - 0xf0, 3)

/-- What becomes of a thread that stands before a character of a set, after one more byte. -/
def takeByte (set : CharSet) (t : Thread) (b : UInt8) : Option Thread :=
  let taken? := if 0 < t.missing then some (64 * t.bits + (b.toNat - 0x80), t.missing - 1)
    else leadByte? b
  match taken? with
  | none => none
  | some (bits, 0) => if set.contains bits then some (.at (t.position + 1)) else none
  | some (bits, missing) => some ⟨t.position, bits, missing⟩

/-- What becomes of threads after one more byte. A thread that has matched ends all those
after it. -/
def advance (code : Array Instruction) (b : UInt8) : List Thread → List Thread
  | [] => []
  | t :: rest =>
    match code[t.position]? with
    | some (.char set) => (takeByte set t b).toList ++ advance code b rest
    | some .byte => .at (t.position + 1) :: advance code b rest
    | some .done => []
    | _ => advance code b rest

/-- Whether a thread has matched. -/
def hasMatched (code : Array Instruction) (t : Thread) : Bool := code[t.position]? = some .done

/-- Runs threads to the end of a text, and tells whether one has matched there. -/
def runFrom (code : Array Instruction) (before? : Option UInt8) (threads : List Thread) :
    List UInt8 → Bool
  | [] =>
    let settled := settle code ⟨before?, none⟩ (threads.length + 2 * code.size + 1) [] threads
    settled.any (hasMatched code)
  | b :: rest =>
    let settled := settle code ⟨before?, some b⟩ (threads.length + 2 * code.size + 1) [] threads
    runFrom code (some b) (advance code b settled) rest

/-- Whether a pattern accepts a text. -/
def accepts (p : Pattern) (text : Text) : Bool :=
  runFrom p.program none [.at 0] (String.ofList text).toUTF8.toList

end Pattern

end CommandConsole
