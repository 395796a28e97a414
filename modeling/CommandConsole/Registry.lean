import CommandConsole.Text.Blank
import CommandConsole.Text.Quoted

/-!
# Commands and their registry

A **command** has a name, texts that describe it, and an action. What an action is, is left
to the user of the library: `κ` is the type of actions, and running one is a function given
elsewhere, so a registry is plain data.

A **registry** keeps commands under names, in the order they were registered. A name can be
registered only if it could be typed as one unquoted word: it has to be non-empty and free of
blanks, quotes and separators. A name that is taken cannot be registered again until its
command is removed, and a command registered anew goes to the end.

Commands are found and removed by the name they are kept under, and nobody looks into the
command for it. Since a command is only ever registered under its own name, it makes no
difference (`Registry.Built.keyed`).
-/

namespace CommandConsole

/-- A command with an action of type `κ`. -/
structure Command (κ : Type) where
  name : Text
  description : Text
  usage : Text
  /-- Hidden commands run like any other but are not listed. -/
  hidden : Bool
  action : κ
  deriving DecidableEq, Repr

namespace Command

variable {κ : Type}

/-- A command that has a name and an action only. -/
def plain (name : Text) (action : κ) : Command κ := ⟨name, [], [], false, action⟩

/-- The same command with an action of another type. -/
def map {μ : Type} (f : κ → μ) (c : Command κ) : Command μ :=
  ⟨c.name, c.description, c.usage, c.hidden, f c.action⟩

/-- A command as a diagnostic shows it, its action left out. -/
def inspect (c : Command κ) : Text :=
  "CommandDescriptor \x7b name: " ++ Text.quoted c.name ++
    ", description: " ++ Text.quoted c.description ++
    ", usage: " ++ Text.quoted c.usage ++
    ", hidden: " ++ toString c.hidden ++ ", .. \x7d"

end Command

/-- Whether a name can be typed as one unquoted word. -/
def isCommandName (name : Text) : Bool :=
  !name.isEmpty && name.all fun c => !(isBlank c || c == '"' || c == ';' || c == '&')

/-- Why a command is not registered. -/
inductive RegistryError where
  /-- The name is registered already. -/
  | duplicate (name : Text)
  /-- The name could never be typed as a command name. -/
  | invalidName (name : Text)
  deriving DecidableEq, Repr

/-- The error in words. -/
def RegistryError.message : RegistryError → Text
  | duplicate name => "command `" ++ name ++ "` is already registered"
  | invalidName name => "invalid command name " ++ Text.quoted name

/-- Commands and the names they are kept under, in the order of their registration. -/
structure Registry (κ : Type) where
  entries : List (Text × Command κ)
  deriving DecidableEq, Repr

namespace Registry

variable {κ : Type}

/-- No commands. -/
def empty : Registry κ := ⟨[]⟩

/-- The names that commands are kept under. -/
def keys (r : Registry κ) : List Text := r.entries.map Prod.fst

/-- The commands. -/
def commands (r : Registry κ) : List (Command κ) := r.entries.map Prod.snd

/-- The command kept under a name. -/
def find? (r : Registry κ) (name : Text) : Option (Command κ) :=
  (r.entries.find? fun e => e.1 == name).map Prod.snd

/-- Whether a name is registered. -/
def contains (r : Registry κ) (name : Text) : Bool :=
  r.entries.any fun e => e.1 == name

/-- The number of commands. -/
def size (r : Registry κ) : Nat := r.entries.length

/-- The commands meant for listings. -/
def visible (r : Registry κ) : List (Command κ) :=
  r.commands.filter fun c => !c.hidden

/-- With one more command at the end, under its name. An unusable name is refused before a
taken one. -/
def register (r : Registry κ) (c : Command κ) : Except RegistryError (Registry κ) :=
  if !isCommandName c.name then .error (.invalidName c.name)
  else if r.contains c.name then .error (.duplicate c.name)
  else .ok ⟨r.entries ++ [(c.name, c)]⟩

/-- Without the command of a name, and that command if there was one. The others keep their
order. -/
def unregister (r : Registry κ) (name : Text) : Option (Command κ) × Registry κ :=
  (r.find? name, ⟨r.entries.eraseP fun e => e.1 == name⟩)

/-- A name is registered exactly if it has a command. -/
theorem contains_eq_isSome_find? (r : Registry κ) (name : Text) :
    r.contains name = (r.find? name).isSome := by
  rw [Bool.eq_iff_iff, contains, find?, Option.isSome_map, List.any_eq_true, List.find?_isSome]

theorem contains_iff {r : Registry κ} {name : Text} : r.contains name = true ↔ name ∈ r.keys := by
  simp [contains, keys]

/-- What is found under a name is kept under it. -/
theorem mem_entries_of_find? {r : Registry κ} {name : Text} {c : Command κ}
    (h : r.find? name = some c) : (name, c) ∈ r.entries := by
  obtain ⟨⟨key, d⟩, hfind, rfl⟩ := Option.map_eq_some_iff.1 h
  have hkey : key = name := by simpa using List.find?_some hfind
  rw [← hkey]
  exact List.mem_of_find?_eq_some hfind

/-- Only commands of the registry are found. -/
theorem mem_commands_of_find? {r : Registry κ} {name : Text} {c : Command κ}
    (h : r.find? name = some c) : c ∈ r.commands :=
  List.mem_map_of_mem (mem_entries_of_find? h)

end Registry

end CommandConsole
