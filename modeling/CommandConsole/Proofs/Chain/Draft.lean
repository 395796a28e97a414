import CommandConsole.Proofs.Argument.Roles
import CommandConsole.Proofs.Chain.Resolution
import CommandConsole.Proofs.Registry.Names

/-!
# Drafts of chains

A **draft** is a chain that somebody means to run, before it is a line: calls of registered
commands, what each of them is given, and the separators between the calls (`Draft`). It also fixes
what the reader of the line is free to ignore: which texts are written bare and which between
quotes, and all the blanks. `Draft.line` writes the draft down, and `Draft.chain` is what the line
is meant to resolve to. Where a call stands is part of this, since the blanks that the draft puts
in are counted in bytes.

Drafts are well-formed by construction. A `Draft.Item` cannot be a positional text that looks like
a flag, a `Draft.WrittenItem` cannot be written in a style that its text does not allow, and a
`Draft.Clause` cannot call a command that is not found by its name. Nothing is asked of the names:
that they can be written bare follows from the registry.

`Draft.Item.role_text`: the text of an item has the role that the item is meant to have.
-/

namespace CommandConsole

namespace Draft

/-! ### Items -/

/-- **What a call is given**: a positional text, or flags. -/
inductive Item where
  /-- A text that does not look like a flag. -/
  | positional (text : Text) (plain : text.head? = some '?' → text = ['?'])
  /-- `?abc`, one flag for each letter. -/
  | letters (cs : Text) (ne_nil : cs ≠ []) (all : ∀ c ∈ cs, isLetter c = true)
  /-- `??name`, the one flag of this name. -/
  | name (cs : Text) (ne_nil : cs ≠ []) (all : ∀ c ∈ cs, c.isAlpha = true)

namespace Item

/-- The text that says it. -/
def text : Item → Text
  | positional text _ => text
  | letters cs _ _ => '?' :: cs
  | name cs _ _ => '?' :: '?' :: cs

/-- The positional text, if the item is one. -/
def positional? : Item → Option Text
  | positional text _ => some text
  | _ => none

/-- The flags that are meant. -/
def flags : Item → List Text
  | positional _ _ => []
  | letters cs _ _ => cs.map fun c => [c]
  | name cs _ _ => [cs]

/-- What the item is for. -/
def role (i : Item) : Argument.Role :=
  if i.positional?.isSome then .positional else .flags i.flags

/-- **The text of an item is read as what the item means.** -/
theorem role_text (i : Item) : Argument.role i.text = i.role := by
  cases i with
  | positional text plain =>
    apply Argument.role_of_isPositional
    by_cases hmark : text.head? = some '?'
    · exact .inr (plain hmark)
    · exact .inl hmark
  | letters cs ne_nil all => exact Argument.role_of_denotes (.letters ne_nil all)
  | name cs ne_nil all => exact Argument.role_of_denotes (.name ne_nil all)

theorem role_ne_malformed (i : Item) : i.role ≠ .malformed := by
  unfold role
  split
  · exact Argument.Role.noConfusion
  · exact Argument.Role.noConfusion

end Item

/-! ### Items on the line -/

/-- How a text is written. -/
inductive Style where
  | bare
  | quoted
  deriving DecidableEq, Repr

namespace Style

/-- The token that is written. -/
def kind : Style → Text → Token.Kind
  | bare, text => .word text
  | quoted, text => .quoted text

/-- The text as it is written. -/
def write : Style → Text → Text
  | bare, text => text
  | quoted, text => '"' :: (text ++ ['"'])

theorem text?_kind (s : Style) (text : Text) : (s.kind text).text? = some text := by
  cases s <;> rfl

theorem isSeparator_kind (s : Style) (text : Text) : (s.kind text).isSeparator = false := by
  cases s <;> rfl

end Style

/-- **An item as it is written**, with blanks in front of it, in a style that its text allows. -/
structure WrittenItem where
  gap : Text
  item : Item
  style : Style
  gap_ne_nil : gap ≠ []
  gap_blank : Text.isAllBlank gap = true
  spelled : (style.kind item.text).IsSpelled (style.write item.text)

namespace WrittenItem

/-- What stands on the line. -/
def source (i : WrittenItem) : Text := i.gap ++ i.style.write i.item.text

end WrittenItem

/-- Some items in a row on the line. -/
def itemsSource (items : List WrittenItem) : Text := items.flatMap WrittenItem.source

@[simp] theorem itemsSource_cons (i : WrittenItem) (more : List WrittenItem) :
    itemsSource (i :: more) = i.source ++ itemsSource more := rfl

/-! ### Clauses -/

variable {κ : Type} {registry : Registry κ}

/-- **A call as it is written**: the name of a registered command, bare, and items behind it, with
blanks at both ends. -/
structure Clause (registry : Registry κ) where
  front : Text
  command : Command κ
  items : List WrittenItem
  back : Text
  front_blank : Text.isAllBlank front = true
  back_blank : Text.isAllBlank back = true
  found : registry.find? command.name = some command

namespace Clause

/-- The call, without the blanks at its ends. -/
def source (c : Clause registry) : Text := c.command.name ++ itemsSource c.items

/-- What stands on the line. -/
def text (c : Clause registry) : Text := c.front ++ (c.source ++ c.back)

/-- Where the clause ends that starts at byte `pos`. -/
def stop (c : Clause registry) (pos : Nat) : Nat := pos + Text.byteLength c.text

/-- **The call that is meant** by a clause that starts at byte `pos`. -/
def invocation (c : Clause registry) (independent : Bool) (pos : Nat) : Invocation κ where
  command := c.command
  arguments := c.items.filterMap fun i => i.item.positional?
  flags := (∅ : FlagSet).insertAll (c.items.flatMap fun i => i.item.flags)
  independent := independent
  span := ⟨pos + Text.byteLength c.front,
    pos + Text.byteLength c.front + Text.byteLength c.source⟩

end Clause

/-- **A further clause in its place**: behind a separator that stands at byte `pos`. -/
structure Place (registry : Registry κ) where
  separator : Separator
  clause : Clause registry
  pos : Nat

namespace Place

/-- The call that is meant. It is independent if the clause follows a `;`. -/
def invocation (p : Place registry) : Invocation κ :=
  p.clause.invocation (p.separator == .always) (p.pos + 1)

end Place

/-- Further clauses in their places, the first of them behind a separator at byte `pos`. -/
def places (pos : Nat) : List (Separator × Clause registry) → List (Place registry)
  | [] => []
  | (which, c) :: more => ⟨which, c, pos⟩ :: places (c.stop (pos + 1)) more

/-- Further clauses on the line. -/
def moreText (more : List (Separator × Clause registry)) : Text :=
  more.flatMap fun m => m.1.mark :: m.2.text

end Draft

/-! ### Drafts -/

/-- **A chain to be written down**: at least one clause, and separators between clauses. -/
structure Draft {κ : Type} (registry : Registry κ) where
  first : Draft.Clause registry
  more : List (Separator × Draft.Clause registry)

namespace Draft

variable {κ : Type} {registry : Registry κ}

/-- **The line** that a draft is written as. -/
def line (d : Draft registry) : Text := d.first.text ++ moreText d.more

/-- The clauses behind the first one, in their places. -/
def later (d : Draft registry) : List (Place registry) := places (d.first.stop 0) d.more

/-- **The chain that is meant**: one call for each clause, in order. The first one is
independent. -/
def chain (d : Draft registry) : Chain κ :=
  let first := d.first.invocation true 0
  let later := d.later.map Place.invocation
  ⟨first :: later, ⟨first.span.start, (later.getLastD first).span.stop⟩⟩

end Draft

end CommandConsole
