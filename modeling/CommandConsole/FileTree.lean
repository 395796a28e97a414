import CommandConsole.FileError

/-!
# A tree of files

The program reads its configuration and its history from files, and writes the history
back. It does so in a **file tree**: a value that says which files and directories there
are. The working directory is the root of relative paths. Absolute paths have a root of
their own.

A path is walked component by component, and each component but the last has to name a
directory. What goes wrong on the way or at the end is a `FileError`:

* `FileTree.read` reads a file;
* `FileTree.write` writes one, and makes it if need be;
* `FileTree.makeDirectory` makes a directory in one that is there;
* `FileTree.makeDirectories` makes a directory and those it stands in.
-/

namespace CommandConsole

/-- Where something stands in a tree: the names from the root down. The first name of an
absolute place is empty, which no other name is. -/
abbrev Place : Type := List Text

/-- The files and directories there are. -/
structure FileTree where
  /-- The files and what is in them. -/
  files : List (Place × Text)
  /-- The directories that are not there for the sake of a file in them. -/
  directories : List Place
  deriving DecidableEq, Repr

namespace FileTree

/-! ### Paths -/

/-- Whether a component of a path leads nowhere. -/
def isIdle (name : Text) : Bool := name.isEmpty || name = ['.']

/-- Whether a path starts at the root of absolute places. -/
def isAbsolute (path : Text) : Bool := path.head? = some '/'

/-- Where a path starts: at the root of absolute places or in the working directory. -/
def base (path : Text) : Place := if isAbsolute path then [[]] else []

/-- The longest path that can be walked, in bytes. -/
def longestPath : Nat := 4095

/-- The longest name that anything can have, in bytes. -/
def longestName : Nat := 255

/-- Whether a path can be walked at all. -/
def checkPath (path : Text) : Except FileError Unit :=
  if path.any fun c => c.toNat = 0 then .error .nullInPath
  else if longestPath < Text.byteLength path then .error .nameTooLong
  else if path.isEmpty then .error .notFound
  else .ok ()

/-- Components without those at the end that lead nowhere. -/
def trimIdle (names : List Text) : List Text := (names.reverse.dropWhile isIdle).reverse

/-- The path of the directory that a path stands in. The empty path and the root stand in
none. A point at the front of a path counts as a directory of its own. -/
def parentPath? (path : Text) : Option Text :=
  let names := Text.splitAt '/' path
  let (lead, body) := match names with
    | first :: rest => if isAbsolute path || isIdle first then ([first], rest) else ([], names)
    | [] => ([], [])
  match (trimIdle body).reverse with
  | [] => if lead = [['.']] then some [] else none
  | _ :: before =>
    let parent := Text.joinWith "/" (lead ++ trimIdle before.reverse)
    some (if isAbsolute path && parent.isEmpty then ['/'] else parent)

/-! ### Trees -/

/-- No files. -/
def empty : FileTree := ⟨[], []⟩

/-- The place of a path that is known to go straight down. -/
def placeOf (path : Text) : Place :=
  base path ++ (Text.splitAt '/' path).filter fun name => !isIdle name

/-- The tree with one more file, which is given by its path. -/
def addFile (t : FileTree) (path content : Text) : FileTree :=
  { t with files := (placeOf path, content) :: t.files }

/-- The tree with one more directory, which is given by its path. -/
def addDirectory (t : FileTree) (path : Text) : FileTree :=
  { t with directories := placeOf path :: t.directories }

/-- A tree with some files, each given by its path. -/
def ofFiles (files : List (Text × Text)) : FileTree :=
  files.foldl (fun t (path, content) => t.addFile path content) empty

/-- What is in the file at a place. -/
def content? (t : FileTree) (place : Place) : Option Text := t.files.lookup place

/-- Whether there is a directory at a place. -/
def isDirectory (t : FileTree) (place : Place) : Bool :=
  place == [] || place == [[]] || t.directories.any place.isPrefixOf ||
    t.files.any fun (file, _) => place ≠ file && place.isPrefixOf file

/-- That there is a directory at a place, or else what is wrong. -/
def checkDirectory (t : FileTree) (place : Place) : Except FileError Unit :=
  if t.isDirectory place then .ok ()
  else .error (if (t.content? place).isSome then .notADirectory else .notFound)

/-- Walks the components of a path from a place. There need not be anything where the last
one leads. -/
def walk (t : FileTree) (place : Place) : List Text → Except FileError Place
  | [] => .ok place
  | name :: rest => do
    t.checkDirectory place
    if isIdle name then t.walk place rest
    else if name = ['.', '.'] then
      t.walk (if place.length ≤ 1 && place.head? == some [] then place else place.dropLast) rest
    else if longestName < Text.byteLength name then .error .nameTooLong
    else t.walk (place ++ [name]) rest

/-- The components of a path after the place it starts from. -/
def components (path : Text) : List Text :=
  if isAbsolute path then (Text.splitAt '/' path).drop 1 else Text.splitAt '/' path

/-- The place that a path leads to; there need not be anything. -/
def locate (t : FileTree) (path : Text) : Except FileError Place := do
  checkPath path
  t.walk (base path) (components path)

/-- Whether a path leads to a directory. -/
def hasDirectory (t : FileTree) (path : Text) : Bool :=
  match t.locate path with
  | .ok place => t.isDirectory place
  | .error _ => false

/-- Whether a path leads to something. -/
def contains (t : FileTree) (path : Text) : Bool :=
  match t.locate path with
  | .ok place => (t.content? place).isSome || t.isDirectory place
  | .error _ => false

/-- Reads a file. -/
def read (t : FileTree) (path : Text) : Except FileError Text := do
  let place ← t.locate path
  match t.content? place with
  | some content => .ok content
  | none => .error (if t.isDirectory place then .isADirectory else .notFound)

/-- The end of a path at which something is to be made. -/
structure End where
  /-- The directory it is to be made in. -/
  parent : Place
  /-- Its name; nothing if the path ends with the root or with a point. -/
  name? : Option Text
  /-- Whether a slash follows the name. -/
  slash : Bool

/-- The end of a path, if its directory is there. -/
def locateEnd (t : FileTree) (path : Text) : Except FileError End := do
  checkPath path
  let names := (components path).reverse
  let body := names.dropWhile List.isEmpty
  let parent ← t.walk (base path) (body.drop 1).reverse
  t.checkDirectory parent
  let name? := body.head?.filter fun name => name ≠ ['.'] && name ≠ ['.', '.']
  .ok ⟨parent, name?, names.length ≠ body.length⟩

/-- The place where something of a name is, or would be, in a directory. -/
def below (parent : Place) (name : Text) : Except FileError Place :=
  if longestName < Text.byteLength name then .error .nameTooLong else .ok (parent ++ [name])

/-- Writes a file, in place of what was in it. -/
def write (t : FileTree) (path content : Text) : Except FileError FileTree := do
  let e ← t.locateEnd path
  match e.name?, e.slash with
  | some name, false => do
    let place ← below e.parent name
    if t.isDirectory place then .error .isADirectory
    else .ok { t with files := (place, content) :: t.files.filter fun (file, _) => file ≠ place }
  | _, _ => .error .isADirectory

/-- Makes a directory in one that is there. -/
def makeDirectory (t : FileTree) (path : Text) : Except FileError FileTree := do
  let e ← t.locateEnd path
  match e.name? with
  | none => .error .alreadyExists
  | some name => do
    let place ← below e.parent name
    if (t.content? place).isSome || t.isDirectory place then .error .alreadyExists
    else .ok { t with directories := place :: t.directories }

/-- A path and those of the directories it stands in, the innermost first. The working
directory and the root are left out: they are always there. -/
def ancestors : Nat → Text → List Text
  | 0, _ => []
  | bound + 1, path =>
    match parentPath? path with
    | none => []
    | some parent => path :: ancestors bound parent

/-- Makes the first of some directories, each of which stands in the next one. Those that it
stands in are made first if they are missing. -/
def makeFirst (t : FileTree) : List Text → Except FileError FileTree
  | [] => .ok t
  | path :: outer =>
    match t.makeDirectory path with
    | .ok made => .ok made
    | .error .notFound => do
      let around ← t.makeFirst outer
      match around.makeDirectory path with
      | .error .alreadyExists =>
        if around.hasDirectory path then .ok around else .error .alreadyExists
      | result => result
    | .error .alreadyExists => if t.hasDirectory path then .ok t else .error .alreadyExists
    | .error e => .error e

/-- Makes a directory and those it stands in. -/
def makeDirectories (t : FileTree) (path : Text) : Except FileError FileTree :=
  t.makeFirst (ancestors path.length path)

end FileTree

end CommandConsole
