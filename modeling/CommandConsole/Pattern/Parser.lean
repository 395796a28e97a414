import CommandConsole.Pattern
import CommandConsole.Text.Blank
import CommandConsole.Text.Numeral

/-!
# How patterns are written

A pattern is written as a regular expression. Most characters stand for themselves. `.` is
any character but a line feed, `[…]` one out of a class, `^` and `$` are the ends of the
text, `(…)` is a group, `|` a choice, and `?`, `*` and `+` repeat what stands before them;
a `?` after one of these makes it prefer less. A backslash takes the meaning from a
character that has one, or gives one to a letter. Switches in `(?…)` change the `Mode` for
the rest of the group they stand in, and those in `(?…:` for the group they open.

Everything that depends on tables of Unicode is refused: letters without regard to case
(`(?i)`), words, digits and blanks (`\w`, `\d`, `\s`) and word edges (`\b`). With Unicode
switched off (`(?-u)`) these speak of ASCII only and are allowed, but then so are no sets of
other characters. Braces are refused too, since a closing one cannot stand in a pattern here,
and so are groups that look ahead or behind, references to groups, and patterns that nest too
deeply.

`Pattern.parse?` reads a pattern. It keeps the groups that are open on a stack, and takes up
at least one character at every step, so the length of the text bounds the steps.
-/

namespace CommandConsole.Pattern

/-! ### Modes -/

/-- The switches that change how a pattern is read. -/
structure Mode where
  /-- `i`: without regard to case. -/
  anyCase : Bool
  /-- `m`: `^` and `$` are the ends of lines. -/
  lines : Bool
  /-- `s`: `.` is any character at all. -/
  dotAll : Bool
  /-- `U`: repetitions prefer less, and more after a `?`. -/
  lazy : Bool
  /-- `u`: characters are those of Unicode. -/
  unicode : Bool
  /-- `R`: a carriage return ends a line too. -/
  returns : Bool
  /-- `x`: blanks and comments are passed over. -/
  spaced : Bool
  deriving DecidableEq, Repr

namespace Mode

/-- The mode that reading starts in. -/
def initial : Mode := ⟨false, false, false, false, true, false, false⟩

/-- The mode after a switch. -/
def switch? (m : Mode) (on : Bool) : Char → Option Mode
  | 'i' => some { m with anyCase := on }
  | 'm' => some { m with lines := on }
  | 's' => some { m with dotAll := on }
  | 'U' => some { m with lazy := on }
  | 'u' => some { m with unicode := on }
  | 'R' => some { m with returns := on }
  | 'x' => some { m with spaced := on }
  | _ => none

/-- Without the blanks and comments at the front, if the mode passes over them. A comment
goes from a number sign to the end of its line. -/
def skip (m : Mode) (text : Text) : Text := if m.spaced then go false text else text
where
  /-- Without blanks and comments; `comment` says that one has begun. -/
  go (comment : Bool) : Text → Text
    | [] => []
    | c :: rest =>
      if comment then go (c ≠ '\n') rest
      else if c = '#' then go true rest
      else if isBlank c then go false rest
      else c :: rest

/-- The character after the first one, as a class looks ahead for it. In a spaced mode blanks
are passed over and so is one number sign, but nothing else of a comment. -/
def peek? (m : Mode) (text : Text) : Option Char :=
  if m.spaced then
    match (text.drop 1).dropWhile isBlank with
    | '#' :: rest => (rest.dropWhile isBlank).head?
    | rest => rest.head?
  else (text.drop 1).head?

end Mode

/-! ### Characters and escapes -/

/-- What a character or an escape stands for. -/
inductive Atom where
  | char (c : Char)
  /-- A set with a name. -/
  | set (s : CharSet)
  | anchor (a : Anchor)

/-- The characters that mean something. -/
def specials : Text := "\\.+*?()|[]\x7b\x7d^$#&-~"

/-- The characters of an ASCII word. -/
def wordTable : List (Nat × Nat) := [(0x30, 0x39), (0x41, 0x5a), (0x5f, 0x5f), (0x61, 0x7a)]

/-- The blanks of ASCII. -/
def blankTable : List (Nat × Nat) := [(0x9, 0xd), (0x20, 0x20)]

/-- The digits of ASCII. -/
def digitTable : List (Nat × Nat) := [(0x30, 0x39)]

/-- The value of a hexadecimal digit. -/
def hexDigit? (c : Char) : Option Nat :=
  if c.isDigit then some (c.toNat - 48)
  else if 'a' ≤ c && c ≤ 'f' then some (c.toNat - 87)
  else if 'A' ≤ c && c ≤ 'F' then some (c.toNat - 55)
  else none

/-- Reads hexadecimal digits, and gives their value. -/
def readHex (m : Mode) : Nat → Nat → Text → Option (Nat × Text)
  | 0, value, text => some (value, text)
  | count + 1, value, text =>
    match m.skip text with
    | [] => none
    | c :: rest => (hexDigit? c).bind fun d => readHex m count (16 * value + d) rest

/-- Reads the code point of a character in a number of hexadecimal digits. -/
def readCodePoint (m : Mode) (digits : Nat) (text : Text) : Option (Atom × Text) := do
  let (n, rest) ← readHex m digits 0 text
  -- without Unicode, two digits give a byte, which must be a character by itself
  if n.isValidChar && (m.unicode || digits ≠ 2 || n < 0x80) then
    some (.char (Char.ofNat n), rest)
  else none

/-- The condition of a word edge, which is one of ASCII words. -/
def wordAnchor (m : Mode) (a : Anchor) (rest : Text) : Option (Atom × Text) :=
  -- what stands in braces after an edge would say which edge is meant
  if m.unicode || rest.head? = some '\x7b' then none else some (.anchor a, rest)

/-- A named set of ASCII. -/
def asciiSet (m : Mode) (table : List (Nat × Nat)) (rest : Text) : Option (Atom × Text) :=
  if m.unicode then none else some (.set (.ranges table), rest)

/-- Reads an escape after its backslash. -/
def readEscape (m : Mode) : Text → Option (Atom × Text)
  | [] => none
  | c :: rest =>
    if specials.contains c then some (.char c, rest)
    else if c.isAlphanum || c = '<' || c = '>' then
      match c with
      | 'x' => readCodePoint m 2 rest
      | 'u' => readCodePoint m 4 rest
      | 'U' => readCodePoint m 8 rest
      | 'd' => asciiSet m digitTable rest
      | 's' => asciiSet m blankTable rest
      | 'w' => asciiSet m wordTable rest
      | 'a' => some (.char '\x07', rest)
      | 'f' => some (.char '\x0c', rest)
      | 't' => some (.char '\t', rest)
      | 'n' => some (.char '\n', rest)
      | 'r' => some (.char '\r', rest)
      | 'v' => some (.char '\x0b', rest)
      | 'A' => some (.anchor .textStart, rest)
      | 'z' => some (.anchor .textEnd, rest)
      | 'b' => wordAnchor m .wordEdge rest
      | 'B' => wordAnchor m .noWordEdge rest
      | '<' => wordAnchor m .wordStart rest
      | '>' => wordAnchor m .wordEnd rest
      | _ => none
    else if c.toNat < 0x80 then some (.char c, rest)
    else none

/-! ### Classes -/

/-- A set and how deep its writing nests. -/
structure SetPiece where
  set : CharSet
  depth : Nat

/-- The tables of the ASCII classes that have names. -/
def namedTables : List (String × List (Nat × Nat)) :=
  [("alnum", [(0x30, 0x39), (0x41, 0x5a), (0x61, 0x7a)]), ("alpha", [(0x41, 0x5a), (0x61, 0x7a)]),
   ("ascii", [(0, 0x7f)]), ("blank", [(0x9, 0x9), (0x20, 0x20)]),
   ("cntrl", [(0, 0x1f), (0x7f, 0x7f)]), ("digit", digitTable), ("graph", [(0x21, 0x7e)]),
   ("lower", [(0x61, 0x7a)]), ("print", [(0x20, 0x7e)]),
   ("punct", [(0x21, 0x2f), (0x3a, 0x40), (0x5b, 0x60), (0x7b, 0x7e)]), ("space", blankTable),
   ("upper", [(0x41, 0x5a)]), ("word", wordTable),
   ("xdigit", [(0x30, 0x39), (0x41, 0x46), (0x61, 0x66)])]

/-- The characters of a range as a class has them. -/
def rangeSet (m : Mode) (low high : Nat) : Option CharSet :=
  if high < low || (m.unicode && m.anyCase) || (!m.unicode && 0x80 ≤ high) then none
  else some (.ranges [(low, high)])

/-- The complement of a set as a class has it. -/
def complementSet (m : Mode) (s : CharSet) : Option CharSet :=
  if m.unicode then some (.complement s) else none

/-- A set as the mode has it with regard to case. -/
def caseSet (m : Mode) (s : CharSet) : CharSet := if m.anyCase then .bothCases s else s

/-- Reads a named class after its opening bracket, such as `:alpha:]`. The inner result is
nothing if the mode does not allow it. -/
def readNamed (m : Mode) : Text → Option (Option SetPiece × Text)
  | ':' :: text =>
    let (negated, text) := match text with
      | '^' :: rest => (true, rest)
      | _ => (false, text)
    let name := text.takeWhile (· ≠ ':')
    match namedTables.lookup (String.ofList name), text.drop name.length with
    | some table, ':' :: ']' :: rest =>
      let set? := if m.unicode && m.anyCase then none
        else if negated then complementSet m (.ranges table)
        else some (caseSet m (.ranges table))
      some (set?.map fun s => ⟨s, 0⟩, rest)
    | _, _ => none
  | _ => none

/-- What stands between two operands of a class. -/
inductive SetOperator where
  | intersection
  | difference
  | symmetric

/-- A class whose closing bracket has not come yet. -/
structure OpenSet where
  negated : Bool
  /-- The operand that has been read, and the operator after it. -/
  left? : Option (SetPiece × SetOperator)
  /-- The items of the operand that is being read, the last one first. -/
  items : List SetPiece

namespace OpenSet

/-- With one more item. -/
def add (o : OpenSet) (p : SetPiece) : OpenSet := { o with items := p :: o.items }

/-- The operand that is being read. -/
def operand (o : OpenSet) : SetPiece :=
  match o.items with
  | [] => ⟨.empty, 0⟩
  | [p] => p
  | ps => ⟨.unionOf (ps.map SetPiece.set), (ps.map SetPiece.depth).foldl max 0 + 1⟩

/-- All operands so far as one. -/
def combined (o : OpenSet) (m : Mode) : SetPiece :=
  let right := o.operand
  match o.left? with
  | none => right
  | some (left, operator) =>
    let a := caseSet m left.set
    let b := caseSet m right.set
    let set := match operator with
      | .intersection => .intersection a b
      | .difference => .difference a b
      | .symmetric => .symmetric a b
    ⟨set, max left.depth right.depth + 1⟩

/-- With an operator after all operands so far. -/
def operate (o : OpenSet) (m : Mode) (operator : SetOperator) : OpenSet :=
  { o with left? := some (o.combined m, operator), items := [] }

/-- The class, when its closing bracket has come. -/
def close (o : OpenSet) (m : Mode) : Option SetPiece :=
  let piece := o.combined m
  let set := caseSet m piece.set
  (if o.negated then complementSet m set else some set).map fun s => ⟨s, piece.depth + 1⟩

end OpenSet

/-- Reads hyphens that stand for themselves. -/
def readHyphens (m : Mode) : Nat → OpenSet → Text → Option (OpenSet × Text)
  | 0, o, text => some (o, text)
  | bound + 1, o, text =>
    match m.skip text with
    | '-' :: rest => do
      let set ← rangeSet m 0x2d 0x2d
      readHyphens m bound (o.add ⟨set, 0⟩) rest
    | text => some (o, text)

/-- Reads the front of a class after its opening bracket: a circumflex, and hyphens or a
closing bracket that stand for themselves. -/
def openSet (m : Mode) (text : Text) : Option (OpenSet × Text) := do
  let text := m.skip text
  let (negated, text) := match text with
    | '^' :: rest => (true, m.skip rest)
    | _ => (false, text)
  let (o, text) ← readHyphens m text.length ⟨negated, none, []⟩ text
  match text with
  | ']' :: rest =>
    if o.items.isEmpty then do
      let set ← rangeSet m 0x5d 0x5d
      some (o.add ⟨set, 0⟩, rest)
    else some (o, ']' :: rest)
  | text => some (o, text)

/-- Reads one character or escape of a class. -/
def readSetAtom (m : Mode) : Text → Option (Atom × Text)
  | [] => none
  | '\\' :: rest => readEscape m rest
  | c :: rest => some (.char c, rest)

/-- Reads an item of a class that is no class itself: a character, a named set or a range. -/
def readSetItem (m : Mode) (text : Text) : Option (SetPiece × Text) := do
  let (low, rest) ← readSetAtom m text
  let rest := m.skip rest
  let single : Option SetPiece := match low with
    | .char c => (rangeSet m c.toNat c.toNat).map fun s => ⟨s, 0⟩
    | .set s => some ⟨s, 0⟩
    | .anchor _ => none
  match rest with
  | '-' :: more =>
    if m.peek? rest = some ']' || m.peek? rest = some '-' then single.map fun p => (p, rest)
    else do
      let (high, rest) ← readSetAtom m (m.skip more)
      match low, high with
      | .char a, .char b => (rangeSet m a.toNat b.toNat).map fun s => (⟨s, 0⟩, rest)
      | _, _ => none
  | _ => single.map fun p => (p, rest)

/-- Reads a class to its closing bracket. `outer` are the classes it stands in, the innermost
first. -/
def readSet (m : Mode) : Nat → List OpenSet → OpenSet → Text → Option (SetPiece × Text)
  | 0, _, _, _ => none
  | bound + 1, outer, o, text =>
    match m.skip text with
    | [] => none
    | '[' :: rest =>
      match readNamed m rest with
      | some (piece?, rest) => do readSet m bound outer (o.add (← piece?)) rest
      | none => do
        let (inner, rest) ← openSet m rest
        readSet m bound (o :: outer) inner rest
    | ']' :: rest => do
      let piece ← o.close m
      match outer with
      | [] => some (piece, rest)
      | around :: outer => readSet m bound outer (around.add piece) rest
    | '&' :: '&' :: rest => readSet m bound outer (o.operate m .intersection) rest
    | '-' :: '-' :: rest => readSet m bound outer (o.operate m .difference) rest
    | '~' :: '~' :: rest => readSet m bound outer (o.operate m .symmetric) rest
    | text => do
      let (piece, rest) ← readSetItem m text
      readSet m bound outer (o.add piece) rest

/-! ### Groups -/

/-- A pattern and how deep its writing nests. -/
structure Piece where
  pattern : Pattern
  depth : Nat

/-- A group whose closing parenthesis has not come yet, or the pattern as a whole. -/
structure OpenGroup where
  /-- The mode around the group. -/
  around : Mode
  /-- The choices that have been read, the last one first. -/
  choices : List Piece
  /-- The items of the choice that is being read, the last one first. Switches are items too,
  but nothing that could be repeated. -/
  items : List (Option Piece)

namespace OpenGroup

/-- With one more item. -/
def add (g : OpenGroup) (p : Piece) : OpenGroup := { g with items := some p :: g.items }

/-- One pattern out of several. -/
def join (op : Pattern → Pattern → Pattern) (pieces : List Piece) : Piece :=
  match pieces with
  | [] => ⟨.empty, 0⟩
  | [p] => p
  | p :: rest =>
    ⟨rest.foldl (fun acc q => op acc q.pattern) p.pattern,
      (pieces.map Piece.depth).foldl max 0 + 1⟩

/-- The choice that is being read. -/
def current (g : OpenGroup) : Piece :=
  join sequence (g.items.reverse.map fun item => item.getD ⟨.empty, 0⟩)

/-- The group before its next choice. -/
def choose (g : OpenGroup) : OpenGroup :=
  { g with choices := g.current :: g.choices, items := [] }

/-- All choices of the group. -/
def close (g : OpenGroup) : Piece := join choice (g.current :: g.choices).reverse

/-- With the last item repeated. -/
def repeatLast (g : OpenGroup) (op : Pattern → Pattern) : Option OpenGroup :=
  match g.items with
  | some p :: before => some { g with items := some ⟨op p.pattern, p.depth + 1⟩ :: before }
  | _ => none

end OpenGroup

/-- A character as a pattern. -/
def charPattern (m : Mode) (c : Char) : Option Pattern :=
  if m.anyCase && m.unicode then none else some (.char (caseSet m (.single c)))

/-- What a point stands for. -/
def dotPattern (m : Mode) : Option Pattern :=
  if !m.unicode then none
  else if m.dotAll then some (.char (.complement .empty))
  else if m.returns then some (.char (.complement (.ranges [(0xa, 0xa), (0xd, 0xd)])))
  else some (.char (.complement (.ranges [(0xa, 0xa)])))

/-- What a circumflex stands for. -/
def startAnchor (m : Mode) : Anchor :=
  if !m.lines then .textStart else if m.returns then .returnStart else .lineStart

/-- What a dollar sign stands for. -/
def endAnchor (m : Mode) : Anchor :=
  if !m.lines then .textEnd else if m.returns then .returnEnd else .lineEnd

/-- What an atom outside of classes stands for. -/
def atomPattern (m : Mode) : Atom → Option Pattern
  | .char c => charPattern m c
  | .set s => some (.char s)
  | .anchor a => some (.anchor a)

/-- Reads switches up to a colon or a closing parenthesis, which is left. `used` are those
there were, and `on` says whether they are switched on. A hyphen has to be followed by a
switch, and no sign may come twice. -/
def readSwitches (on : Bool) (used : Text) (m : Mode) : Text → Option (Mode × Text)
  | [] => none
  | c :: rest =>
    if c = ':' || c = ')' then
      if used.head? = some '-' then none else some (m, c :: rest)
    else if used.contains c then none
    else if c = '-' then readSwitches false (c :: used) m rest
    else (m.switch? on c).bind fun m => readSwitches on (c :: used) m rest

/-- Whether a character may stand in the name of a group. -/
def isNameChar (first : Bool) (c : Char) : Bool :=
  c = '_' ||
    if first then isLetter c else c = '.' || c = '[' || c = ']' || isAlphanumeric c

/-- Reads the name of a group and the bracket after it. -/
def readName (text : Text) : Option (Text × Text) :=
  let name := text.takeWhile (· ≠ '>')
  match name, text.drop name.length with
  | c :: more, _ :: rest =>
    if isNameChar true c && more.all (isNameChar false) then some (name, rest) else none
  | _, _ => none

/-- How a group starts. -/
inductive Opening where
  /-- A group, and the mode in it. -/
  | group (m : Mode)
  | named (name : Text)
  /-- Switches, and the mode after them. -/
  | switches (m : Mode)

/-- Reads how a group starts, after its opening parenthesis. -/
def readOpening (m : Mode) (text : Text) : Option (Opening × Text) :=
  match m.skip text with
  | '?' :: '!' :: _ => none
  | '?' :: '=' :: _ => none
  | '?' :: '<' :: '!' :: _ => none
  | '?' :: '<' :: '=' :: _ => none
  | '?' :: 'P' :: '<' :: rest => (readName rest).map fun (name, rest) => (.named name, rest)
  | '?' :: '<' :: rest => (readName rest).map fun (name, rest) => (.named name, rest)
  | '?' :: ')' :: _ => none
  | '?' :: rest =>
    match readSwitches true [] m rest with
    | some (m, ':' :: rest) => some (.group m, rest)
    | some (m, _ :: rest) => some (.switches m, rest)
    | _ => none
  | text => some (.group m, text)

/-! ### Patterns -/

/-- What a sign of repetition does, given whether more is preferred. -/
def repetition? : Char → Option (Bool → Pattern → Pattern)
  | '?' => some optional
  | '*' => some star
  | '+' => some repeated
  | _ => none

/-- Reads one item that is no group. -/
def readItem (m : Mode) : Text → Option (Piece × Text)
  | [] => none
  | '[' :: rest => do
    let (o, rest) ← openSet m rest
    let (piece, rest) ← readSet m (rest.length + 1) [] o rest
    some (⟨.char piece.set, piece.depth⟩, rest)
  | '\\' :: rest => do
    let (atom, rest) ← readEscape m rest
    some (⟨← atomPattern m atom, 0⟩, rest)
  | '.' :: rest => (dotPattern m).map fun p => (⟨p, 0⟩, rest)
  | '^' :: rest => some (⟨.anchor (startAnchor m), 0⟩, rest)
  | '$' :: rest => some (⟨.anchor (endAnchor m), 0⟩, rest)
  | '\x7b' :: _ => none
  | c :: rest => (charPattern m c).map fun p => (⟨p, 0⟩, rest)

/-- Reads a pattern to its end. `names` are the names of groups so far, `g` is the group that
is open and `outer` are those it stands in, the innermost first. -/
def readFrom (names : List Text) (m : Mode) (outer : List OpenGroup) (g : OpenGroup) :
    Nat → Text → Option Piece
  | 0, _ => none
  | bound + 1, text =>
    match m.skip text with
    | [] => if outer.isEmpty then some g.close else none
    | '(' :: rest => do
      let (opening, rest) ← readOpening m rest
      match opening with
      | .group inner => readFrom names inner (g :: outer) ⟨m, [], []⟩ bound rest
      | .named name =>
        if names.contains name then none
        else readFrom (name :: names) m (g :: outer) ⟨m, [], []⟩ bound rest
      | .switches m => readFrom names m outer { g with items := none :: g.items } bound rest
    | ')' :: rest =>
      match outer with
      | [] => none
      | around :: outer =>
        let piece := g.close
        readFrom names g.around outer (around.add ⟨piece.pattern, piece.depth + 1⟩) bound rest
    | '|' :: rest => readFrom names m outer g.choose bound rest
    | c :: rest =>
      match repetition? c with
      | some op => do
        let (less, rest) := match rest with
          | '?' :: rest => (true, rest)
          | _ => (false, rest)
        -- the switch for less and the sign for less cancel out
        readFrom names m outer (← g.repeatLast (op (m.lazy == less))) bound rest
      | none => do
        let (piece, rest) ← readItem m (c :: rest)
        readFrom names m outer (g.add piece) bound rest

/-- How deep a pattern may nest. -/
def deepest : Nat := 250

/-- Reads a pattern. -/
def parse? (text : Text) : Option Pattern :=
  match readFrom [] .initial [] ⟨.initial, [], []⟩ (text.length + 1) text with
  | some piece => if piece.depth ≤ deepest then some piece.pattern else none
  | none => none

end CommandConsole.Pattern
