import CommandConsole.Proofs.Token.Spelling
import CommandConsole.Registry

/-!
# The names in a registry can be typed

A `Registry` is any list of commands under any keys. The registries that there are come about by
registrations and removals, starting from an empty one (`Registry.Built`). Registering puts a
command under its own name, so that in such a registry the keys are the names
(`Registry.Built.keyed`). And it refuses a name that could not be typed, so every command has a name
that can be typed (`Registry.Built.isCommandName`): written bare, the name is the spelling of a word
(`Registry.isSpelled_of_isCommandName`).
-/

namespace CommandConsole.Registry

variable {κ : Type} {r : Registry κ}

/-- **A registry that came about by registrations and removals.** A registration that is refused
leaves no new registry. -/
inductive Built : Registry κ → Prop where
  | empty : Built .empty
  | register {r r' : Registry κ} {c : Command κ} (hbuilt : Built r)
      (hregister : r.register c = .ok r') : Built r'
  | unregister {r : Registry κ} (name : Text) (hbuilt : Built r) : Built (r.unregister name).2

/-- What a registration that is not refused does. -/
theorem register_eq_ok {r' : Registry κ} {c : Command κ} (h : r.register c = .ok r') :
    isCommandName c.name = true ∧ r.contains c.name = false ∧
      r' = ⟨r.entries ++ [(c.name, c)]⟩ := by
  unfold register at h
  split at h
  · cases h
  · next hname =>
    split at h
    · cases h
    · next hfree =>
      cases h
      exact ⟨by simpa using hname, by simpa using hfree, rfl⟩

/-- **Every command is kept under its own name**, and the name can be typed. -/
theorem Built.keyed (h : r.Built) :
    ∀ e ∈ r.entries, e.1 = e.2.name ∧ isCommandName e.2.name = true := by
  induction h with
  | empty => exact fun _ he => absurd he List.not_mem_nil
  | register _ hregister ih =>
    obtain ⟨hname, -, rfl⟩ := register_eq_ok hregister
    intro e he
    rcases List.mem_append.1 he with he | he
    · exact ih e he
    · obtain rfl := List.mem_singleton.1 he
      exact ⟨rfl, hname⟩
  | unregister name _ ih =>
    -- a removal leaves some of the commands there were
    intro e he
    exact ih e (List.mem_of_mem_eraseP he)

theorem Built.isCommandName (h : r.Built) : ∀ c ∈ r.commands, isCommandName c.name = true := by
  intro c hc
  obtain ⟨e, he, rfl⟩ := List.mem_map.1 hc
  exact (h.keyed e he).2

/-- The keys of a built registry are the names of its commands. -/
theorem Built.keys_eq (h : r.Built) : r.keys = r.commands.map Command.name := by
  rw [keys, commands, List.map_map]
  exact List.map_congr_left fun e he => (h.keyed e he).1

/-- **A name that can be typed is the spelling of a word.** -/
theorem isSpelled_of_isCommandName {name : Text} (h : isCommandName name = true) :
    (Token.Kind.word name).IsSpelled name := by
  simp only [CommandConsole.isCommandName, Bool.and_eq_true, Bool.not_eq_true',
    List.isEmpty_eq_false_iff, List.all_eq_true, Bool.or_eq_false_iff] at h
  obtain ⟨hne, hall⟩ := h
  refine ⟨rfl, hne, ?_, ?_⟩
  · intro hhead
    obtain ⟨rest, rfl⟩ := List.head?_eq_some_iff.1 hhead
    obtain ⟨⟨⟨-, hquote⟩, -⟩, -⟩ := hall '"' List.mem_cons_self
    exact absurd hquote (by decide)
  · intro c hc hends
    obtain ⟨⟨⟨hblank, -⟩, hsemi⟩, hamp⟩ := hall c hc
    rcases hends with h | rfl | rfl
    · rw [hblank] at h
      cases h
    · exact absurd hsemi (by decide)
    · exact absurd hamp (by decide)

end CommandConsole.Registry
