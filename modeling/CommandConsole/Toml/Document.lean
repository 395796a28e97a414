import CommandConsole.Toml.Literal

/-!
# TOML documents

A document is a list of statements, one a line: a key with its value, the header of a table,
or the header of one more table in an array. Keys may be dotted. Comments and blank lines
may stand everywhere between statements, and a byte order mark before the first one.

`Toml.parse?` reads a document into its top table. A key that is given twice, a table that
is opened twice, and a table that is extended after it was complete make the whole document
invalid.

Values may nest only so deep, and a dotted key may only have so many parts (`deepest`). The
other readers of repeated things take a bound too. There every item takes up a character, so
the length of the text is bound enough.
-/

namespace CommandConsole.Toml

/-- How deep values may nest, and how many parts a dotted key may have. -/
def deepest : Nat := 79

/-- Reads the parts of a dotted key, at least one and no more than a bound. The last one comes
apart from those before it. -/
def readKeyWithin : Nat → Reader (List Text × Text)
  | 0, _ => none
  | bound + 1, text => do
    let (part, rest) ← readKeyPart (skipGap text)
    match skipGap rest with
    | '.' :: more => do
      let ((path, last), rest) ← readKeyWithin bound more
      some ((part :: path, last), rest)
    | rest => some (([], part), rest)

/-- Reads the parts of a dotted key. -/
def readKey : Reader (List Text × Text) := readKeyWithin deepest

/-- Without comments, line ends and gaps at the front. -/
def skipTrivia : Text → Text
  | [] => []
  | '\r' :: '\n' :: rest => skipTrivia rest
  | '#' :: rest => skipTrivia (rest.dropWhile isShown)
  | c :: rest => if isGap c || c == '\n' then skipTrivia rest else c :: rest
termination_by text => text.length
decreasing_by
  · simp only [List.length_cons]; omega
  · have := (List.dropWhile_sublist isShown (l := rest)).length_le
    simp only [List.length_cons]; omega
  · simp

/-- Reads the items of an array after its opening bracket, or after a comma. -/
def readItems (read : Reader Value) : Nat → Reader (List Value)
  | 0, _ => none
  | bound + 1, text =>
    match skipTrivia text with
    | ']' :: rest => some ([], rest)
    | text => do
      let (item, rest) ← read text
      match skipTrivia rest with
      | ',' :: rest => do
        let (items, rest) ← readItems read bound rest
        some (item :: items, rest)
      | ']' :: rest => some ([item], rest)
      | _ => none

/-- Reads the entries of a table between braces into a table, after the opening brace or a
comma. -/
def readPairs (read : Reader Value) : Nat → Table → Reader Table
  | 0, _, _ => none
  | bound + 1, table, text => do
    let ((path, key), rest) ← readKey text
    match rest with
    | '=' :: rest => do
      let (value, rest) ← read (skipGap rest)
      let table ← table.assign? path key value
      match skipGap rest with
      | ',' :: rest => readPairs read bound table rest
      | '\x7d' :: rest => some (table, rest)
      | _ => none
    | _ => none

/-- Reads a value that is not made of values. -/
def readScalar : Reader Value := fun text =>
  match text with
  | '"' :: _ => (readString text).map fun (value, rest) => (.text value, rest)
  | '\'' :: _ => (readString text).map fun (value, rest) => (.text value, rest)
  | _ => readWord text

/-- Reads a value in which arrays and tables nest within a bound. -/
def readValueWithin : Nat → Reader Value
  | 0, text => readScalar text
  | bound + 1, text =>
    match text with
    | '[' :: rest => do
      let (items, rest) ← readItems (readValueWithin bound) rest.length rest
      some (.array false items, rest)
    | '\x7b' :: rest =>
      match skipGap rest with
      | '\x7d' :: rest => some (.table .inline [], rest)
      | _ => do
        let (table, rest) ← readPairs (readValueWithin bound) rest.length ⟨.inline, []⟩ rest
        some (.table .inline table.entries, rest)
    | _ => readScalar text

/-- Reads a value. -/
def readValue : Reader Value := readValueWithin deepest

/-- A document that is half read: its top table, and the table that keys belong in. -/
structure Draft where
  top : Table
  current : List Text

/-- The rest of the text after the end of a statement's line. -/
def endOfLine? (text : Text) : Option Text :=
  let rest := match skipGap text with
    | '#' :: comment => comment.dropWhile isShown
    | rest => rest
  match rest with
  | [] => some []
  | '\n' :: rest => some rest
  | '\r' :: '\n' :: rest => some rest
  | _ => none

/-- Reads one statement into the draft. -/
def readStatement (draft : Draft) (text : Text) : Option (Draft × Text) :=
  match text with
  | '[' :: '[' :: rest => do
    let ((path, key), rest) ← readKey rest
    match rest with
    | ']' :: ']' :: rest => do
      -- the keys that follow belong in the new table
      let top ← draft.top.openElement? path key
      some (⟨top, path ++ [key]⟩, rest)
    | _ => none
  | '[' :: rest => do
    let ((path, key), rest) ← readKey rest
    match rest with
    | ']' :: rest => do
      let top ← draft.top.openTable? path key
      some (⟨top, path ++ [key]⟩, rest)
    | _ => none
  | _ => do
    let ((path, key), rest) ← readKey text
    match rest with
    | '=' :: rest => do
      let (value, rest) ← readValue (skipGap rest)
      let top ← draft.top.update? false (fun t => t.assign? path key value) draft.current
      some ({ draft with top }, rest)
    | _ => none

/-- Reads statements to the end of the text. -/
def readStatements : Nat → Draft → Text → Option Table
  | 0, _, _ => none
  | bound + 1, draft, text =>
    match skipTrivia text with
    | [] => some draft.top
    | text => do
      let (draft, rest) ← readStatement draft text
      let rest ← endOfLine? rest
      readStatements bound draft rest

/-- Reads a document into its top table. -/
def parse? (text : Text) : Option Table :=
  let text := match text with
    | '\ufeff' :: rest => rest
    | _ => text
  readStatements (text.length + 1) ⟨⟨.header, []⟩, []⟩ text

end CommandConsole.Toml
