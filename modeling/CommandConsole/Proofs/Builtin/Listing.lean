import CommandConsole.Builtin
import CommandConsole.Proofs.Registry.History
import CommandConsole.Proofs.Text.Cut
import CommandConsole.Proofs.Token.Seam
import Mathlib.Data.List.Forall2

/-!
# The listing of the commands

`help` alone prints a listing. Whatever calls the registry has got, the listing has an entry for
each command that was registered and not removed since, unless it is hidden, in the order of the
registrations (`Builtin.IsListing`). The entries are laid out in columns (`Builtin.IsEntry`): all
names are padded to one width, so that all descriptions start in one column.

The width is measured in bytes and the padding in characters. So it can be wider than it has to be,
but never too narrow, for no character is of less than one byte. Blanks at the end of an entry are
removed, and with a blank description that is the padding as well; the name is left, since there is
no blank in the name of any command that could be registered (`Registry.Built.isCommandName`).

There is a limit to it. No text is padded to a width above `Builtin.widthLimit`, and the bytes of a
name may be more than that even where its characters are not. The main statement,
`Builtin.help_lists_iff`, says that the listing is printed exactly if the bytes of every listed name
are within the limit (`Builtin.FitsListing`), and that otherwise `help` panics and nothing is
printed. `Builtin.help_panics_longName` is a name that does not fit, of a quarter of the characters
that the limit has room for.
-/

namespace CommandConsole

variable {κ : Type}

/-! ### Trimming -/

namespace Text

/-- After trimming no blank is last. -/
theorem not_blank_of_getLast?_trimEnd {text : Text} {ch : Char}
    (h : (trimEnd text).getLast? = some ch) : isBlank ch = false := by
  rw [trimEnd, List.getLast?_reverse] at h
  have hhead := List.head?_dropWhile_not isBlank text.reverse
  rw [h] at hhead
  exact hhead

/-- **What has no blank in it is kept** when the blanks at the end are removed. -/
theorem prefix_trimEnd {front back : Text} (hfront : ∀ ch ∈ front, isBlank ch = false) :
    front <+: trimEnd (front ++ back) := by
  obtain ⟨tail, htail, hblank⟩ := exists_append_trimEnd (front ++ back)
  rcases List.append_eq_append_iff.1 htail with ⟨m, hm, -⟩ | ⟨m, hm, rfl⟩
  · exact ⟨m, hm.symm⟩
  · -- `m` would be removed from it
    cases m with
    | nil => exact ⟨[], (List.append_nil front).trans (hm.trans (List.append_nil _))⟩
    | cons d m =>
      have hd := List.all_eq_true.1 hblank d (by simp)
      rw [hfront d (by rw [hm]; simp)] at hd
      cases hd

end Text

namespace Builtin

open Registry (Call afterCalls StandsAt)

/-! ### Listings -/

/-- The name of a command with its padding, two spaces and the description. -/
def columns (width : Nat) (c : Command κ) : Text :=
  c.name ++ (List.replicate (width - c.name.length) ' ' ++ ' ' :: ' ' :: c.description)

/-- **The entry of a command** in a listing whose names are `width` characters wide. -/
structure IsEntry (width : Nat) (c : Command κ) (entry : Text) : Prop where
  length_name : c.name.length ≤ width
  /-- What is removed at the end is blank. -/
  columns_eq : ∃ blanks, columns width c = entry ++ blanks ∧ Text.isAllBlank blanks = true
  not_blank_last : ∀ ch, entry.getLast? = some ch → isBlank ch = false
  /-- The name is all there. -/
  name_prefix : c.name <+: entry
  /-- A description that is not blank starts two columns behind the names. -/
  column : (∃ ch ∈ c.description, isBlank ch = false) →
    entry.drop (width + 2) ≠ [] ∧ entry.drop (width + 2) <+: c.description

/-- The call at place `n` of the run registered a command that is to be listed. -/
def ListedAt (calls : List (Call κ)) (n : Nat) (c : Command κ) : Prop :=
  StandsAt calls n c ∧ c.hidden = false

/-- Some texts, each on a line of its own. -/
def onLines (texts : List Text) : Text := texts.flatMap fun text => text ++ ['\n']

/-- **A listing of the commands there are after a run of calls**: an entry for each command to be
listed, in the order of the registrations, all of one width and each on a line of its own. -/
def IsListing (calls : List (Call κ)) (text : Text) : Prop :=
  ∃ (width : Nat) (listed : List (Nat × Command κ)) (entries : List Text),
    (listed.Pairwise fun a b => a.1 < b.1) ∧ (∀ n c, (n, c) ∈ listed ↔ ListedAt calls n c) ∧
    List.Forall₂ (fun a entry => IsEntry width a.2 entry) listed entries ∧
    text = onLines entries

/-- **All names are short enough for a listing**, in bytes. -/
def FitsListing (calls : List (Call κ)) : Prop :=
  ∀ n c, ListedAt calls n c → Text.byteLength c.name ≤ widthLimit

/-! ### Entries -/

theorem not_isBlank_of_mem_name {name : Text} (h : isCommandName name = true) :
    ∀ ch ∈ name, isBlank ch = false := by
  intro ch hmem
  rw [← Bool.not_eq_true]
  intro hblank
  exact (Registry.isCommandName_iff.1 h).2 ch hmem (.inl hblank)

theorem listingEntry_eq (width : Nat) (c : Command κ) :
    listingEntry width c = Text.trimEnd (columns width c) := by
  have hgap : "  ".toList = [' ', ' '] := by decide
  rw [listingEntry, pad, columns, hgap, List.append_assoc, List.append_assoc]
  rfl

/-- The description stands two columns behind the padded name. -/
theorem drop_columns {width : Nat} {c : Command κ} (hlength : c.name.length ≤ width) :
    (columns width c).drop (width + 2) = c.description := by
  have hsplit : columns width c =
      (c.name ++ (List.replicate (width - c.name.length) ' ' ++ [' ', ' '])) ++ c.description := by
    simp [columns]
  rw [hsplit]
  apply List.drop_left'
  simp only [List.length_append, List.length_replicate, List.length_cons, List.length_nil]
  omega

/-- **The entries of a listing are laid out in columns.** -/
theorem isEntry_listingEntry {width : Nat} {c : Command κ} (hname : isCommandName c.name = true)
    (hlength : c.name.length ≤ width) : IsEntry width c (listingEntry width c) := by
  have hentry := listingEntry_eq width c
  obtain ⟨blanks, hlaid, hblanks⟩ := Text.exists_append_trimEnd (columns width c)
  rw [← hentry] at hlaid
  refine ⟨hlength, ⟨blanks, hlaid, hblanks⟩, ?_, ?_, ?_⟩
  · intro ch hlast
    rw [hentry] at hlast
    exact Text.not_blank_of_getLast?_trimEnd hlast
  · rw [hentry]
    exact Text.prefix_trimEnd (not_isBlank_of_mem_name hname)
  · rintro ⟨ch, hmem, hch⟩
    have hdrop := drop_columns hlength
    rw [hlaid, List.drop_append] at hdrop
    refine ⟨?_, ⟨_, hdrop⟩⟩
    -- if the entry ended in front of it, the description would be blank
    intro hnil
    rw [hnil, List.nil_append] at hdrop
    rw [← hdrop] at hmem
    have hblank := List.all_eq_true.1 hblanks ch (List.mem_of_mem_drop hmem)
    rw [hch] at hblank
    cases hblank

/-! ### Widths -/

theorem foldl_max_le_iff {ns : List Nat} {n limit : Nat} :
    ns.foldl max n ≤ limit ↔ n ≤ limit ∧ ∀ m ∈ ns, m ≤ limit := by
  induction ns generalizing n with
  | nil => simp
  | cons m rest ih => rw [List.foldl_cons, ih, Nat.max_le, List.forall_mem_cons, and_assoc]

/-- **The width is that of the longest name**, in bytes. -/
theorem listingWidth_le_iff {listed : List (Command κ)} {limit : Nat} :
    listingWidth listed ≤ limit ↔ ∀ c ∈ listed, Text.byteLength c.name ≤ limit := by
  rw [listingWidth, foldl_max_le_iff, List.forall_mem_map]
  exact and_iff_right (Nat.zero_le limit)

/-- It has room for the characters of every name. -/
theorem length_le_listingWidth {listed : List (Command κ)} {c : Command κ} (hc : c ∈ listed) :
    c.name.length ≤ listingWidth listed :=
  Nat.le_trans (Text.length_le_byteLength c.name) (listingWidth_le_iff.1 (Nat.le_refl _) c hc)

/-! ### What `help` prints -/

theorem mem_visible_iff {calls : List (Call κ)} {c : Command κ} :
    c ∈ (afterCalls calls).visible ↔ ∃ n, ListedAt calls n c := by
  rw [Registry.visible, List.mem_filter, Registry.mem_commands_iff]
  simp [ListedAt]

theorem fitsListing_iff {calls : List (Call κ)} :
    FitsListing calls ↔ listingWidth (afterCalls calls).visible ≤ widthLimit := by
  rw [listingWidth_le_iff]
  constructor
  · intro h c hc
    obtain ⟨n, hn⟩ := mem_visible_iff.1 hc
    exact h n c hn
  · intro h n c hn
    exact h c (mem_visible_iff.2 ⟨n, hn⟩)

/-- **The lines of the listing** are one. -/
theorem isListing_listing (calls : List (Call κ)) :
    IsListing calls (onLines (listing (afterCalls calls))) := by
  obtain ⟨places, hlist, hordered, hstands⟩ := Registry.exists_places calls
  have hvisible : (afterCalls calls).visible =
      (places.filter fun a => !a.2.hidden).map Prod.snd := by
    rw [Registry.visible, hlist, List.filter_map]
    rfl
  refine ⟨listingWidth (afterCalls calls).visible, places.filter fun a => !a.2.hidden, _,
    hordered.filter _, ?_, ?_, rfl⟩
  · intro n c
    rw [List.mem_filter, hstands, ListedAt, Bool.not_eq_true']
  · -- the entry of a command is made from the command itself, so the two lists go in step
    rw [listing]
    have hroom : ∀ c ∈ (afterCalls calls).visible,
        c.name.length ≤ listingWidth (afterCalls calls).visible :=
      fun _ => length_le_listingWidth
    generalize listingWidth (afterCalls calls).visible = width at hroom ⊢
    rw [hvisible] at hroom ⊢
    rw [List.map_map, List.forall₂_map_right_iff, List.forall₂_same]
    intro a ha
    have hname : isCommandName a.2.name = true := by
      refine (Registry.built_afterCalls calls).isCommandName a.2 ?_
      rw [hlist]
      exact List.mem_map_of_mem (List.mem_filter.1 ha).1
    exact isEntry_listingEntry hname (hroom a.2 (List.mem_map_of_mem ha))

/-- Without arguments `help` prints the listing. -/
theorem perform_help_of_le {i : Invocation κ} {w : World κ} (harguments : i.arguments = [])
    (hworking : w.out.full = false) (hwidth : listingWidth w.registry.visible ≤ widthLimit) :
    help.perform i w =
      (.success, { w with out := w.out.append (onLines (listing w.registry)) }) := by
  rw [perform, performHelp, harguments]
  show performListing w = _
  rw [performListing, if_pos hwidth, World.print_of_not_full hworking, List.flatMap_map, onLines]
  simp only [Print.toText_line]

/-- A listing that does not fit is not begun. -/
theorem perform_help_of_lt {i : Invocation κ} {w : World κ} (harguments : i.arguments = [])
    (hwidth : widthLimit < listingWidth w.registry.visible) :
    help.perform i w = (.panic (some "Formatting argument out of range"), w) := by
  rw [perform, performHelp, harguments]
  exact if_neg (Nat.not_le_of_lt hwidth)

/-- **A listing is printed exactly if all names fit**, on a working stream and whatever calls the
registry has got. If one does not, `help` panics, and nothing has happened. -/
theorem help_lists_iff {calls : List (Call κ)} {i : Invocation κ} {w : World κ}
    (hregistry : w.registry = afterCalls calls) (harguments : i.arguments = [])
    (hworking : w.out.full = false) :
    ((∃ text, IsListing calls text ∧
        help.perform i w = (.success, { w with out := w.out.append text })) ↔
      FitsListing calls) ∧
    (¬ FitsListing calls →
      help.perform i w = (.panic (some "Formatting argument out of range"), w)) := by
  have hpanic : ¬ FitsListing calls →
      help.perform i w = (.panic (some "Formatting argument out of range"), w) := by
    intro hlong
    rw [fitsListing_iff, Nat.not_le, ← hregistry] at hlong
    exact perform_help_of_lt harguments hlong
  refine ⟨⟨?_, ?_⟩, hpanic⟩
  · rintro ⟨text, -, hlists⟩
    by_contra hlong
    rw [hpanic hlong] at hlists
    cases congrArg Prod.fst hlists
  · intro hfits
    rw [fitsListing_iff, ← hregistry] at hfits
    refine ⟨_, isListing_listing calls, ?_⟩
    rw [← hregistry]
    exact perform_help_of_le harguments hworking hfits

/-- A call of `help` alone. -/
def helpCall : Invocation Unit := ⟨.plain "help" (), [], .empty, true, ⟨0, 4⟩⟩

/-- A working world in which the registry has got some calls. -/
def worldAfter (calls : List (Call Unit)) : World Unit :=
  { (World.empty : World Unit) with registry := afterCalls calls }

theorem registry_worldAfter (calls : List (Call Unit)) :
    (worldAfter calls).registry = afterCalls calls := rfl

/-- A command is removed, one is hidden and one is refused, and two are left to be listed. -/
def mixedCalls : List (Call Unit) :=
  [.register (.plain "gone" ()), .register ⟨"é", " first ", [], false, ()⟩,
    .register ⟨"hidden", "second", [], true, ()⟩, .unregister "gone",
    .register (.plain "b c" ()), .register (.plain "bcd" ())]

/-- The descriptions start behind three columns for the names and two more. -/
theorem help_lists_iff_mixed :
    FitsListing mixedCalls ∧
      (∃ text, IsListing mixedCalls text ∧ help.perform helpCall (worldAfter mixedCalls) =
        (.success, { worldAfter mixedCalls with
          out := (worldAfter mixedCalls).out.append text })) ∧
      (help.perform helpCall (worldAfter mixedCalls)).2.out.written = "é     first\nbcd\n" := by
  have hfits : FitsListing mixedCalls := by
    rw [fitsListing_iff]
    decide
  have harguments : helpCall.arguments = [] := rfl
  have hworking : (worldAfter mixedCalls).out.full = false := rfl
  have hlists := help_lists_iff (registry_worldAfter mixedCalls) harguments hworking
  exact ⟨hfits, hlists.1.2 hfits, by decide⟩

/-- A name of characters that take up four bytes each. -/
def longName : Text := List.replicate 16384 '😀'

theorem isCommandName_longName : isCommandName longName = true := by
  refine Registry.isCommandName_iff.2 ⟨?_, ?_⟩
  · exact List.ne_nil_of_length_pos (by rw [longName, List.length_replicate]; decide)
  · intro ch hch
    rw [longName] at hch
    obtain rfl := List.eq_of_mem_replicate hch
    unfold Registry.IsForbidden
    decide

/-- A registry that holds this name only. -/
def longCalls : List (Call Unit) := [.register (.plain longName ())]

theorem visible_longCalls : (afterCalls longCalls).visible = [.plain longName ()] := by
  rw [longCalls, afterCalls, List.foldl_cons, List.foldl_nil]
  obtain ⟨hname, -⟩ | ⟨-, htaken, -⟩ | ⟨-, -, hcall⟩ :=
    Registry.call_register_cases Registry.empty (.plain longName ())
  · rw [show (Command.plain longName ()).name = longName from rfl, isCommandName_longName] at hname
    cases hname
  · cases htaken
  · rw [hcall]
    rfl

/-- **A name that can be registered, but not listed.** It has fewer characters than a text can be
padded to, but more bytes. -/
theorem help_panics_longName :
    isCommandName longName = true ∧ longName.length ≤ widthLimit ∧
      (worldAfter longCalls).out.full = false ∧ helpCall.arguments = [] ∧
      help.perform helpCall (worldAfter longCalls) =
        (.panic (some "Formatting argument out of range"), worldAfter longCalls) ∧
      (help.perform helpCall (worldAfter longCalls)).1 ≠ .success := by
  have hlength : longName.length ≤ widthLimit := by
    rw [longName, List.length_replicate]
    decide
  have hwidth : widthLimit < listingWidth (worldAfter longCalls).registry.visible := by
    rw [registry_worldAfter, visible_longCalls, ← Nat.not_le, listingWidth_le_iff,
      List.forall_mem_singleton]
    show ¬ Text.byteLength longName ≤ widthLimit
    rw [longName, Text.byteLength_replicate, show '😀'.utf8Size = 4 by decide, widthLimit]
    omega
  have hpanic := perform_help_of_lt (i := helpCall) (w := worldAfter longCalls) rfl hwidth
  refine ⟨isCommandName_longName, hlength, rfl, rfl, hpanic, ?_⟩
  rw [hpanic]
  exact Reply.noConfusion

end Builtin

end CommandConsole
