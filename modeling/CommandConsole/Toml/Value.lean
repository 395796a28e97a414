import CommandConsole.Setting

/-!
# The values of a TOML document

A document of settings is a tree of tables. Whether a table may be extended later in the
document depends on how it came about, so each table remembers its **form**: written out
between braces, opened by a header, made by a dotted key, or made on the way to the table
of a longer header. Arrays likewise remember whether they were written out or opened by
headers in double brackets.

* `Table.update?` changes the table at the end of a path, and refuses a path through
  something that cannot be extended;
* `Value.toSetting` forgets the forms. As a setting, a date or a time is a mapping with one
  entry of a name of its own.
-/

namespace CommandConsole.Toml

/-- How a table came about. -/
inductive Form where
  /-- Between braces; complete as it stands. -/
  | inline
  /-- By its own header. -/
  | header
  /-- By a dotted key. -/
  | dotted
  /-- On the way to the table of a longer header. -/
  | implied
  deriving DecidableEq, Repr

/-- A value of a document. -/
inductive Value where
  | text (value : Text)
  | integer (value : Int)
  | float (value : Float)
  | boolean (value : Bool)
  /-- A date, a time, or both, as it is written. -/
  | moment (text : Text)
  /-- An array; `ofTables` says that headers opened it. -/
  | array (ofTables : Bool) (items : List Value)
  | table (form : Form) (entries : List (Text × Value))

/-- A table under construction. -/
structure Table where
  form : Form
  entries : List (Text × Value)

namespace Table

/-- The value of a key. -/
def find? (t : Table) (key : Text) : Option Value := t.entries.lookup key

/-- With a value for a key that has none yet. -/
def insert? (t : Table) (key : Text) (value : Value) : Option Table :=
  match t.find? key with
  | none => some { t with entries := t.entries ++ [(key, value)] }
  | some _ => none

/-- With another value for a key. -/
def replace (t : Table) (key : Text) (value : Value) : Table :=
  { t with entries := t.entries.map fun (k, v) => if k = key then (k, value) else (k, v) }

/-- As a value. -/
def toValue (t : Table) : Value := .table t.form t.entries

/-- Changes the table at the end of a path, making the tables on the way that are missing.
By dotted keys, tables that have a header cannot be extended; in no way can values that are
written out. The last table of an array stands for the array. -/
def update? (byDots : Bool) (change : Table → Option Table) : List Text → Table → Option Table
  | [], t => change t
  | key :: path, t =>
    match t.find? key with
    | none => do
      let made ← update? byDots change path ⟨if byDots then .dotted else .implied, []⟩
      t.insert? key made.toValue
    | some (.table form entries) =>
      -- what stands between braces is complete, and dotted keys keep out of tables with headers
      if form = .inline || (byDots && form = .header) then none
      else do
        let changed ← update? byDots change path ⟨form, entries⟩
        some (t.replace key changed.toValue)
    | some (.array true items) =>
      -- the last table of the array is the one that is open
      match items.reverse with
      | .table form entries :: before =>
        if byDots then none
        else do
          let changed ← update? byDots change path ⟨form, entries⟩
          some (t.replace key (.array true (before.reverse ++ [changed.toValue])))
      | _ => none
    | some _ => none

/-- With a value under a dotted key. The last part of a dotted key belongs in a table made
by dots, and a simple key in one that is not. -/
def assign? (t : Table) (path : List Text) (key : Text) (value : Value) : Option Table :=
  t.update? true (fun last =>
    if path.isEmpty = (last.form = .dotted : Bool) then none else last.insert? key value) path

/-- With a table opened by a header. A table that was only made on the way to another one
may get its header later. -/
def openTable? (t : Table) (path : List Text) (key : Text) : Option Table :=
  t.update? false (fun parent =>
    match parent.find? key with
    | none => parent.insert? key (.table .header [])
    | some (.table .implied entries) => some (parent.replace key (.table .header entries))
    | some _ => none) path

/-- With one more table in an array of tables. -/
def openElement? (t : Table) (path : List Text) (key : Text) : Option Table :=
  t.update? false (fun parent =>
    match parent.find? key with
    | none => parent.insert? key (.array true [.table .header []])
    | some (.array true items) =>
      some (parent.replace key (.array true (items ++ [.table .header []])))
    | some _ => none) path

end Table

mutual

/-- A value without the forms of its tables. -/
def Value.toSetting : Value → Setting
  | .text value => .text value
  | .integer value => .integer value
  | .float value => .float value
  | .boolean value => .boolean value
  | .moment text => .mapping [("date-time", .text text)]
  | .array _ items => .sequence (toSettings items)
  | .table _ entries => .mapping (toEntries entries)

/-- Values without the forms of their tables. -/
def toSettings : List Value → List Setting
  | [] => []
  | v :: rest => v.toSetting :: toSettings rest

/-- Entries without the forms of their tables. -/
def toEntries : List (Text × Value) → List (Text × Setting)
  | [] => []
  | (key, v) :: rest => (key, v.toSetting) :: toEntries rest

end

end CommandConsole.Toml
