import CommandConsole.FileError

/-!
# Output

What is written goes to an `Output`, which keeps all of it. The device behind an output may
be **full**: then it takes nothing, and every attempt to write to it fails.

There are two ways to write. A text is written **at once** by `Output.write`. Or it is
**printed** by `Output.print`, as a text or as a line, and goes through a buffer. The buffer
passes on whole lines when they are complete, and everything when the printing is done. On a
full device what cannot be passed on stays in the buffer, is in the way of what is printed
next, and never gets out.

`Output.write_of_not_full`, `Output.write_of_full` and `Output.print_of_not_full` say what
comes of writing and printing.
-/

namespace CommandConsole

/-- Something to print. -/
inductive Print where
  | text (text : Text)
  /-- A text and a line feed after it. -/
  | line (text : Text)
  deriving DecidableEq, Repr

namespace Print

/-- The parts that go into the buffer one after the other. -/
def parts : Print → List Text
  | text t => [t]
  | line t => [t, ['\n']]

/-- All that is printed. -/
def toText (p : Print) : Text := p.parts.flatten

@[simp] theorem toText_line (t : Text) : (line t).toText = t ++ ['\n'] := by
  simp [toText, parts]

end Print

/-- A stream of text. -/
structure Output where
  written : Text
  /-- Whether the device behind the stream is full. -/
  full : Bool
  /-- What waits in the buffer of a full device. -/
  waiting : Text
  deriving DecidableEq, Repr

namespace Output

/-- A stream with nothing written yet. -/
def fresh (full : Bool) : Output := ⟨[], full, []⟩

/-- A working stream with nothing written yet. -/
def empty : Output := fresh false

/-- A stream after a text went through. -/
def append (o : Output) (text : Text) : Output := { o with written := o.written ++ text }

/-- Writes a text at once. -/
def write (o : Output) (text : Text) : Except FileError Output :=
  if o.full && !text.isEmpty then .error .noSpace else .ok (o.append text)

/-! ### The buffer of a full device -/

/-- The size of a buffer in bytes. -/
def bufferSize : Nat := 1024

/-- Whether a text fits into the buffer beside what waits there. A text as long as the
buffer never does. -/
def hasRoom (o : Output) (text : Text) : Bool :=
  Text.byteLength o.waiting + Text.byteLength text ≤ bufferSize &&
    Text.byteLength text < bufferSize

/-- With one more text in the buffer, if there is room. -/
def await (o : Output) (text : Text) : Output :=
  if o.hasRoom text then { o with waiting := o.waiting ++ text } else o

/-- The whole lines at the front of a text. -/
def wholeLines (text : Text) : Text :=
  (text.reverse.dropWhile (· ≠ '\n')).reverse

/-- Puts a text into the buffer of a full device. Text that ends no line can wait there if
there is room, and if no whole line waits already. A text that ends a line has to be passed
on at once, which fails; unless the buffer is empty, its lines wait all the same. -/
def putFull (o : Output) (text : Text) : Option FileError × Output :=
  let lines := wholeLines text
  if lines.isEmpty then
    if o.waiting.getLast? = some '\n' || !o.hasRoom text then (some .noSpace, o)
    else (none, o.await text)
  else (some .noSpace, if o.waiting.isEmpty then o else o.await lines)

/-- Puts a text into the buffer, from where a working device takes it. -/
def put (o : Output) (text : Text) : Option FileError × Output :=
  if o.full then o.putFull text else (none, o.append text)

/-- Passes on all that waits. -/
def flush (o : Output) : Option FileError × Output :=
  (if o.full && !o.waiting.isEmpty then some .noSpace else none, o)

/-- Puts texts into the buffer one after the other, and passes on all that waits. The first
failure is the end of it. -/
def putAll (o : Output) : List Text → Option FileError × Output
  | [] => o.flush
  | text :: rest =>
    match o.put text with
    | (none, o) => o.putAll rest
    | failed => failed

/-- Prints a text or a line. -/
def print (o : Output) (p : Print) : Option FileError × Output := o.putAll p.parts

/-! ### What comes of it -/

@[simp] theorem append_nil (o : Output) : o.append [] = o := by
  simp [append]

@[simp] theorem append_append (o : Output) (a b : Text) :
    (o.append a).append b = o.append (a ++ b) := by
  simp [append]

/-- A working stream takes every text. -/
theorem write_of_not_full {o : Output} (h : o.full = false) (text : Text) :
    o.write text = .ok (o.append text) := by
  simp [write, h]

/-- A full stream takes no text but the empty one. -/
theorem write_of_full {o : Output} (h : o.full = true) {text : Text} (ht : text ≠ []) :
    o.write text = .error .noSpace := by
  simp [write, h, ht]

theorem putAll_of_not_full {o : Output} (h : o.full = false) (texts : List Text) :
    o.putAll texts = (none, o.append texts.flatten) := by
  induction texts generalizing o with
  | nil => simp [putAll, flush, h]
  | cons t rest ih => simp [putAll, put, h, ih (o := o.append t) h]

/-- On a working stream everything is printed. -/
theorem print_of_not_full {o : Output} (h : o.full = false) (p : Print) :
    o.print p = (none, o.append p.toText) :=
  putAll_of_not_full h p.parts

end Output

end CommandConsole
