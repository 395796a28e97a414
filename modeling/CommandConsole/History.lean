import CommandConsole.Text.Basic

/-!
# History

The **history** holds the lines that were entered, oldest first. An entry is passed over if
it is empty or the same as the one before it. There is a limit to the number of entries:
at the limit the oldest goes, and under a limit of nothing, nothing is kept.

A history is written as a line that names the format and then one line per entry, in which
a backslash stands before each `\` and replaces each line feed together with an `n`. A file
without the first line is read as plain entries, its first line included.

* `History.add` adds an entry;
* `History.load` reads entries, and gives those it could not read the escapes of;
* `History.render` writes them.
-/

namespace CommandConsole

/-- The lines that were entered. -/
structure History where
  /-- The entries, oldest first. -/
  entries : List Text
  limit : Nat
  /-- How many of the entries are new since the history was loaded. -/
  fresh : Nat
  deriving DecidableEq, Repr

namespace History

/-- No entries yet. -/
def empty (limit : Nat) : History := ⟨[], limit, 0⟩

/-- Whether an entry is passed over. -/
def ignores (h : History) (entry : Text) : Bool :=
  h.limit == 0 || entry.isEmpty || h.entries.getLast? == some entry

/-- With one more entry. -/
def add (h : History) (entry : Text) : History :=
  if h.ignores entry then h
  else
    -- at the limit the oldest entry makes room
    let kept := if h.entries.length == h.limit then h.entries.drop 1 else h.entries
    let entries := kept ++ [entry]
    { h with entries, fresh := min (h.fresh + 1) entries.length }

/-- The first line of a written history. -/
def banner : Text := "#V2"

/-- An entry on one line. -/
def escape (entry : Text) : Text :=
  entry.flatMap fun c =>
    if c = '\\' then ['\\', '\\'] else if c = '\n' then ['\\', 'n'] else [c]

/-- Reads an entry from its line, if its escapes mean something. -/
def unescape? : Text → Option Text
  | [] => some []
  | '\\' :: 'n' :: rest => (unescape? rest).map ('\n' :: ·)
  | '\\' :: '\\' :: rest => (unescape? rest).map ('\\' :: ·)
  | c :: rest => if c = '\\' then none else (unescape? rest).map (c :: ·)

/-- A written history. -/
def render (h : History) : Text :=
  banner ++ ['\n'] ++ h.entries.flatMap fun entry => escape entry ++ ['\n']

/-- The lines of a file. A carriage return before a line feed belongs to the line's end. -/
def fileLines (content : Text) : List Text :=
  let parts := Text.splitAt '\n' content
  let whole := parts.dropLast.map fun line =>
    if line.getLast? = some '\r' then line.dropLast else line
  match parts.getLast? with
  | some last => if last.isEmpty then whole else whole ++ [last]
  | none => whole

/-- Adds the written entries of a file in order, and collects those with escapes that mean
nothing. Such an entry is taken as it is written. -/
def addWritten (h : History) : List Text → History × List Text
  | [] => (h, [])
  | line :: rest =>
    match unescape? line with
    | some entry => (h.add entry).addWritten rest
    | none =>
      let (h', bad) := (h.add line).addWritten rest
      (h', line :: bad)

/-- Reads a file into an empty history, and gives the entries with escapes that mean
nothing. -/
def load (limit : Nat) (content : Text) : History × List Text :=
  let (h, bad) := match fileLines content with
    | [] => (empty limit, [])
    | first :: rest =>
      if first = banner then (empty limit).addWritten rest
      else ((first :: rest).foldl add (empty limit), [])
  ({ h with fresh := 0 }, bad)

end History

end CommandConsole
