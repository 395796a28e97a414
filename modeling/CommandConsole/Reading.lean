import CommandConsole.Text.Grapheme

/-!
# What is read at a prompt

Each time the program asks for a line, it gets a **reading**: a line, or the news that the
line was abandoned, that the input has ended, or that what came is no text. This module
turns the two kinds of input into readings.

* A **stream** of bytes is cut at line feeds; a carriage return before one is dropped, and
  so is what follows the last one if it is empty. A line that is not UTF-8 is no text
  (`Reading.ofStream`).
* At a **keyboard** a line is ended by a carriage return or abandoned by control-C, and
  control-D on an empty line ends the input (`Reading.ofKeys`).

The prompt's own reader also obeys the backspaces in the lines of a stream
(`Text.withoutBackspaces`): each removes the cluster before it.
-/

namespace CommandConsole

/-- What comes when a line is asked for. -/
inductive Reading where
  | line (text : Text)
  /-- The line was abandoned. -/
  | abandoned
  /-- The input has ended. -/
  | ended
  /-- What came is no text. -/
  | unreadable
  deriving DecidableEq, Repr

namespace Text

/-- Obeys the backspaces of a text in clusters. `done` is the text so far, and `widths` are
the widths of the clusters it is made of, the last one first. A width is noted in one byte,
so of a cluster that is wider only what exceeds the multiples of 256 bytes can be removed. -/
def obeyBackspaces (done : Text) (widths : List Nat) : List Text → Text
  | [] => done
  | cluster :: rest =>
    if cluster = ['\x08'] then
      match widths with
      | [] => obeyBackspaces done [] rest
      | width :: before => obeyBackspaces (splitFloor (byteLength done - width) done).1 before rest
    else obeyBackspaces (done ++ cluster) (byteLength cluster % 256 :: widths) rest

/-- A text after its backspaces were obeyed. -/
def withoutBackspaces (text : Text) : Text :=
  if text.contains '\x08' then obeyBackspaces [] [] (clusters text) else text

end Text

namespace Reading

/-- What is said about input that is no text. -/
def unreadableMessage : Text := "stream did not contain valid UTF-8"

/-- Cuts bytes after each line feed. -/
def cutLines : List UInt8 → List (List UInt8)
  | [] => []
  | b :: rest =>
    if b = 10 then [b] :: cutLines rest
    else match cutLines rest with
      | [] => [[b]]
      | first :: others => (b :: first) :: others

/-- A line without the line feed at its end and a carriage return before that. -/
def chomp (text : Text) : Text :=
  match text.reverse with
  | '\n' :: '\r' :: before => before.reverse
  | '\n' :: before => before.reverse
  | _ => text

/-- The reading of the bytes of one line. -/
def ofBytes (bytes : List UInt8) : Reading :=
  match String.fromUTF8? ⟨bytes.toArray⟩ with
  | some text => line (chomp text.toList)
  | none => unreadable

/-- The readings of a stream of bytes. -/
def ofStream (bytes : List UInt8) : List Reading :=
  (cutLines bytes).map ofBytes

/-- The readings of a text that is typed at a keyboard. `typed` is what was typed of the
line so far, the last character first. -/
def ofTyped (typed : Text) : Text → List Reading
  | [] => []
  | c :: rest =>
    if c = '\r' || c = '\n' then line typed.reverse :: ofTyped [] rest
    else if c = '\x03' then abandoned :: ofTyped [] rest
    else if c = '\x04' then if typed.isEmpty then ended :: ofTyped [] rest else ofTyped typed rest
    else ofTyped (c :: typed) rest

/-- The readings of keys pressed at a keyboard. -/
def ofKeys (keys : List Text) : List Reading := ofTyped [] keys.flatten

/-- A reading after the backspaces of its line were obeyed. -/
def obeyed : Reading → Reading
  | line text => line (Text.withoutBackspaces text)
  | other => other

/-- The lines of some readings, up to the first reading that is none. -/
def lines : List Reading → List Text
  | line text :: rest => text :: lines rest
  | _ => []

end Reading

end CommandConsole
