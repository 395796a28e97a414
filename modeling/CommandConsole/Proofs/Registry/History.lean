import CommandConsole.Proofs.Registry.Names
import Mathlib.Data.List.Induction
import Mathlib.Data.List.Nodup

/-!
# What a registry remembers of the calls it got

A registry starts empty and is changed by calls only: a command is registered, or a name is
unregistered. A registration may be refused, and then nothing changes (`Registry.call`). Which
registry there is after a run of calls (`Registry.afterCalls`) should be plain from the run alone,
without following the registry from call to call.

A registration **stands** at its place in the run if it was not refused and its name has not been
unregistered since (`Registry.StandsAt`). `Registry.Records` collects what a registry owes to the
run behind it: it lists the commands whose registrations stand, in the order of their places, and
keeps each under its own name; it finds each of them under this name and nothing under any other;
and it refuses the next registration for two reasons only, which exclude each other. The main
statement, `Registry.records_afterCalls`: after every run of calls the registry does so.

What one more call changes is said by `Registry.standsAt_concat` on the side of the run, and by the
equations of `Registry.call` on the side of the registry. `Registry.exists_places` puts the two
together by induction on the run, the latest call last. The listed commands and their places go
through that induction as one list of pairs, so that whatever happens to the one happens to the
other.
-/

namespace CommandConsole.Registry

variable {κ : Type}

/-! ### Runs of calls -/

/-- A call to a registry. -/
inductive Call (κ : Type) where
  | register (c : Command κ)
  | unregister (name : Text)

/-- How a registry answers a call. -/
inductive Answer (κ : Type) where
  | registered
  | refused (e : RegistryError)
  /-- With the command that had the name, if there was one. -/
  | unregistered (removed? : Option (Command κ))

/-- **One call.** A registration that is refused leaves the registry as it is. -/
def call (r : Registry κ) : Call κ → Answer κ × Registry κ
  | .register c =>
    match r.register c with
    | .ok r' => (.registered, r')
    | .error e => (.refused e, r)
  | .unregister name =>
    let (removed?, r') := r.unregister name
    (.unregistered removed?, r')

/-- The registry after a run of calls that started from nothing. -/
def afterCalls (calls : List (Call κ)) : Registry κ :=
  calls.foldl (fun r call => (r.call call).2) .empty

/-- The call at place `n` of the run registered `c`, and was not refused. -/
def RegisteredAt (calls : List (Call κ)) (n : Nat) (c : Command κ) : Prop :=
  calls[n]? = some (.register c) ∧
    ((afterCalls (calls.take n)).call (.register c)).1 = .registered

/-- **A registration stands**: nobody has unregistered its name since. -/
def StandsAt (calls : List (Call κ)) (n : Nat) (c : Command κ) : Prop :=
  RegisteredAt calls n c ∧ .unregister c.name ∉ calls.drop (n + 1)

/-- A character that no command name may contain. -/
def IsForbidden (ch : Char) : Prop := isBlank ch = true ∨ ch = '"' ∨ ch = ';' ∨ ch = '&'

/-- **What a registry owes to the run of calls behind it.** -/
structure Records (r : Registry κ) (calls : List (Call κ)) : Prop where
  /-- It lists the commands whose registrations stand, in the order of these registrations. -/
  listed : ∃ places : List (Nat × Command κ), r.commands = places.map Prod.snd ∧
    (places.Pairwise fun a b => a.1 < b.1) ∧ ∀ n c, (n, c) ∈ places ↔ StandsAt calls n c
  /-- The name that a command is kept under is the command's own. -/
  keyed : ∀ e ∈ r.entries, e.1 = e.2.name
  /-- A registration that stands is the last one under its name. -/
  latest : ∀ n c, StandsAt calls n c → ∀ m d, RegisteredAt calls m d → d.name = c.name → m ≤ n
  distinct : (r.commands.map Command.name).Nodup
  visible_eq : r.visible = r.commands.filter fun c => !c.hidden
  found_iff : ∀ name, (r.find? name).isSome = true ↔ name ∈ r.commands.map Command.name
  /-- What is found under a name was registered last under it, and has that very name. -/
  found_eq : ∀ name c, r.find? name = some c → c.name = name ∧ ∃ n, StandsAt calls n c
  allowed : ∀ c ∈ r.commands, c.name ≠ [] ∧ ∀ ch ∈ c.name, ¬ IsForbidden ch
  refuses_invalid : ∀ c, (r.call (.register c)).1 = .refused (.invalidName c.name) ↔
    c.name = [] ∨ ∃ ch ∈ c.name, IsForbidden ch
  refuses_duplicate : ∀ c, (r.call (.register c)).1 = .refused (.duplicate c.name) ↔
    c.name ∈ r.commands.map Command.name
  /-- There is no third reason, and a refusal changes nothing. -/
  refused_keeps : ∀ c e, (r.call (.register c)).1 = .refused e →
    (e = .invalidName c.name ∨ e = .duplicate c.name) ∧ (r.call (.register c)).2 = r
  /-- Unregistering gives what was found under the name, and without it changes nothing. -/
  unregister_keeps : ∀ name, (r.call (.unregister name)).1 = .unregistered (r.find? name) ∧
    (name ∉ r.commands.map Command.name → (r.call (.unregister name)).2 = r)

/-! ### One more call -/

theorem afterCalls_concat (calls : List (Call κ)) (next : Call κ) :
    afterCalls (calls ++ [next]) = ((afterCalls calls).call next).2 := by
  rw [afterCalls, afterCalls, List.foldl_append, List.foldl_cons, List.foldl_nil]

theorem built_afterCalls (calls : List (Call κ)) : (afterCalls calls).Built := by
  induction calls using List.reverseRecOn with
  | nil => exact .empty
  | append_singleton calls next ih =>
    rw [afterCalls_concat]
    cases next with
    | register c =>
      rw [call]
      cases hregister : (afterCalls calls).register c with
      | ok r' => exact ih.register hregister
      | error e => exact ih -- the registry is the one there was
    | unregister name => exact ih.unregister name

theorem registeredAt_concat {calls : List (Call κ)} {next : Call κ} {n : Nat} {c : Command κ} :
    RegisteredAt (calls ++ [next]) n c ↔ RegisteredAt calls n c ∨
      (n = calls.length ∧ next = .register c ∧
        ((afterCalls calls).call (.register c)).1 = .registered) := by
  unfold RegisteredAt
  rcases Nat.lt_trichotomy n calls.length with hlt | rfl | hgt
  · -- an earlier place, before which nothing has changed
    rw [List.getElem?_append_left hlt, List.take_append_of_le_length (Nat.le_of_lt hlt)]
    constructor
    · exact Or.inl
    · rintro (h | ⟨heq, -⟩)
      · exact h
      · omega
  · rw [List.getElem?_concat_length, List.take_left', List.getElem?_eq_none (Nat.le_refl _)]
    · simp
    · rfl
  · -- a place past the end
    rw [List.getElem?_eq_none (by simp; omega), List.getElem?_eq_none (Nat.le_of_lt hgt)]
    constructor
    · rintro ⟨h, -⟩
      cases h
    · rintro (⟨h, -⟩ | ⟨heq, -⟩)
      · cases h
      · omega

theorem RegisteredAt.lt_length {calls : List (Call κ)} {n : Nat} {c : Command κ}
    (h : RegisteredAt calls n c) : n < calls.length := by
  by_contra hge
  have hnone := List.getElem?_eq_none (Nat.le_of_not_lt hge)
  rw [h.1] at hnone
  cases hnone

/-- **What one more call makes of the registrations that stand.** It may end one, by its name, and
may add its own. -/
theorem standsAt_concat {calls : List (Call κ)} {next : Call κ} {n : Nat} {c : Command κ} :
    StandsAt (calls ++ [next]) n c ↔
      (StandsAt calls n c ∧ next ≠ .unregister c.name) ∨
      (n = calls.length ∧ next = .register c ∧
        ((afterCalls calls).call (.register c)).1 = .registered) := by
  unfold StandsAt
  rw [registeredAt_concat]
  constructor
  · rintro ⟨hold | hnew, hsince⟩
    · rw [List.drop_append_of_le_length hold.lt_length, List.mem_append, not_or,
        List.mem_singleton] at hsince
      exact .inl ⟨⟨hold, hsince.1⟩, fun h => hsince.2 h.symm⟩
    · exact .inr hnew
  · rintro (⟨⟨hold, hsince⟩, hnext⟩ | ⟨rfl, hnew⟩)
    · refine ⟨.inl hold, ?_⟩
      rw [List.drop_append_of_le_length hold.lt_length, List.mem_append, not_or,
        List.mem_singleton]
      exact ⟨hsince, fun h => hnext h.symm⟩
    · -- behind the last call there is none
      refine ⟨.inr ⟨rfl, hnew⟩, ?_⟩
      rw [List.drop_eq_nil_of_le (by simp)]
      exact List.not_mem_nil

/-! ### What a call does to the list -/

theorem isCommandName_iff {name : Text} :
    isCommandName name = true ↔ name ≠ [] ∧ ∀ ch ∈ name, ¬ IsForbidden ch := by
  simp [CommandConsole.isCommandName, IsForbidden, and_assoc]

theorem isCommandName_eq_false_iff {name : Text} :
    isCommandName name = false ↔ name = [] ∨ ∃ ch ∈ name, IsForbidden ch := by
  rw [← Bool.not_eq_true, isCommandName_iff, not_and_or, not_not]
  push Not
  rfl

/-- **The three ways a registration can go.** The name is looked at first, and then whether it is
taken. -/
theorem call_register_cases (r : Registry κ) (c : Command κ) :
    (isCommandName c.name = false ∧
      r.call (.register c) = (.refused (.invalidName c.name), r)) ∨
    (isCommandName c.name = true ∧ c.name ∈ r.keys ∧
      r.call (.register c) = (.refused (.duplicate c.name), r)) ∨
    (isCommandName c.name = true ∧ c.name ∉ r.keys ∧
      r.call (.register c) = (.registered, ⟨r.entries ++ [(c.name, c)]⟩)) := by
  rw [call, register, ← contains_iff]
  cases hname : isCommandName c.name with
  | false => exact .inl ⟨rfl, rfl⟩
  | true =>
    cases htaken : r.contains c.name with
    | true => exact .inr (.inl ⟨rfl, rfl, rfl⟩)
    | false => exact .inr (.inr ⟨rfl, Bool.false_ne_true, rfl⟩)

theorem call_register_refused_or (r : Registry κ) (c : Command κ) :
    (∃ e, r.call (.register c) = (.refused e, r)) ∨
    (c.name ∉ r.keys ∧
      r.call (.register c) = (.registered, ⟨r.entries ++ [(c.name, c)]⟩)) := by
  obtain ⟨-, h⟩ | ⟨-, -, h⟩ | ⟨-, h⟩ := call_register_cases r c
  · exact .inl ⟨_, h⟩
  · exact .inl ⟨_, h⟩
  · exact .inr h

/-- Where every key occurs once, taking out the first entry of a key takes out all of them. -/
theorem eraseP_eq_filter {entries : List (Text × Command κ)}
    (hdistinct : (entries.map Prod.fst).Nodup) (name : Text) :
    entries.eraseP (fun e => e.1 == name) = entries.filter fun e => !(e.1 == name) := by
  induction entries with
  | nil => rfl
  | cons e rest ih =>
    obtain ⟨hfresh, hrest⟩ := List.nodup_cons.1 hdistinct
    by_cases he : e.1 = name
    · -- none of the others has this key
      have hkeep : ∀ f ∈ rest, (!(f.1 == name)) = true := by
        intro f hf
        have hne : f.1 ≠ name := fun h => hfresh (by rw [he, ← h]; exact List.mem_map_of_mem hf)
        simpa using hne
      rw [List.eraseP_cons_of_pos (by simpa using he), List.filter_cons_of_neg (by simpa using he),
        List.filter_eq_self.2 hkeep]
    · rw [List.eraseP_cons_of_neg (by simpa using he), List.filter_cons_of_pos (by simpa using he),
        ih hrest]

/-- **No name is taken twice**, however the registry was built. -/
theorem Built.nodup_keys {r : Registry κ} (h : r.Built) : r.keys.Nodup := by
  induction h with
  | empty => exact List.nodup_nil
  | register _ hregister ih =>
    obtain ⟨-, hfree, rfl⟩ := register_eq_ok hregister
    rw [keys, List.map_append, List.nodup_append]
    refine ⟨ih, List.nodup_singleton _, ?_⟩
    intro name hname name' hname' heq
    obtain rfl := List.mem_singleton.1 hname'
    rw [heq, ← keys, ← contains_iff, hfree] at hname
    cases hname
  | unregister name _ ih => exact ih.sublist (List.eraseP_sublist.map _)

theorem Built.distinct {r : Registry κ} (h : r.Built) : (r.commands.map Command.name).Nodup := by
  rw [← h.keys_eq]
  exact h.nodup_keys

/-- **A command is found under its own name**, and under no other. -/
theorem Built.find?_eq_some_iff {r : Registry κ} (h : r.Built) {name : Text} {c : Command κ} :
    r.find? name = some c ↔ c ∈ r.commands ∧ c.name = name := by
  constructor
  · intro hfind
    exact ⟨mem_commands_of_find? hfind, (h.keyed _ (mem_entries_of_find? hfind)).1.symm⟩
  · rintro ⟨hc, rfl⟩
    -- something is found, and no other command has the name
    have hfound : (r.find? c.name).isSome = true := by
      rw [← contains_eq_isSome_find?, contains_iff, h.keys_eq]
      exact List.mem_map_of_mem hc
    obtain ⟨d, hfind⟩ := Option.isSome_iff_exists.1 hfound
    have hname : c.name = d.name := (h.keyed _ (mem_entries_of_find? hfind)).1
    rw [hfind, List.inj_on_of_nodup_map h.distinct hc (mem_commands_of_find? hfind) hname]

/-- **Unregistering a name** takes the commands of that name out of the list. -/
theorem Built.commands_unregister {r : Registry κ} (h : r.Built) (name : Text) :
    (r.unregister name).2.commands = r.commands.filter fun c => !(c.name == name) := by
  show (r.entries.eraseP fun e => e.1 == name).map Prod.snd = _
  rw [eraseP_eq_filter h.nodup_keys, commands, List.filter_map]
  refine congrArg _ (List.filter_congr fun e he => ?_)
  rw [Function.comp_apply, (h.keyed e he).1]

/-! ### The list and the run -/

theorem standsAt_concat_of_refused {calls : List (Call κ)} {c : Command κ} {e : RegistryError}
    {r : Registry κ} (h : (afterCalls calls).call (.register c) = (.refused e, r)) (n : Nat)
    (d : Command κ) : StandsAt (calls ++ [.register c]) n d ↔ StandsAt calls n d := by
  rw [standsAt_concat]
  constructor
  · rintro (⟨hold, -⟩ | ⟨-, heq, hnew⟩)
    · exact hold
    · cases heq
      rw [h] at hnew
      cases hnew
  · exact fun hold => .inl ⟨hold, nofun⟩

theorem standsAt_concat_of_registered {calls : List (Call κ)} {c : Command κ} {r : Registry κ}
    (h : (afterCalls calls).call (.register c) = (.registered, r)) (n : Nat) (d : Command κ) :
    StandsAt (calls ++ [.register c]) n d ↔
      StandsAt calls n d ∨ (n = calls.length ∧ d = c) := by
  rw [standsAt_concat]
  constructor
  · rintro (⟨hold, -⟩ | ⟨hn, heq, -⟩)
    · exact .inl hold
    · cases heq
      exact .inr ⟨hn, rfl⟩
  · rintro (hold | ⟨hn, rfl⟩)
    · exact .inl ⟨hold, nofun⟩
    · exact .inr ⟨hn, rfl, by rw [h]⟩

theorem standsAt_concat_unregister {calls : List (Call κ)} {name : Text} (n : Nat)
    (d : Command κ) :
    StandsAt (calls ++ [.unregister name]) n d ↔ StandsAt calls n d ∧ d.name ≠ name := by
  rw [standsAt_concat]
  constructor
  · rintro (⟨hold, hne⟩ | ⟨-, heq, -⟩)
    · exact ⟨hold, fun heq => hne (by rw [heq])⟩
    · cases heq
  · rintro ⟨hold, hne⟩
    refine .inl ⟨hold, fun heq => ?_⟩
    cases heq
    exact hne rfl

/-- **The listed commands are those whose registrations stand**, place by place. -/
theorem exists_places (calls : List (Call κ)) :
    ∃ places : List (Nat × Command κ), (afterCalls calls).commands = places.map Prod.snd ∧
      (places.Pairwise fun a b => a.1 < b.1) ∧
      ∀ n c, (n, c) ∈ places ↔ StandsAt calls n c := by
  induction calls using List.reverseRecOn with
  | nil =>
    refine ⟨[], rfl, .nil, fun n c => ⟨fun h => absurd h List.not_mem_nil, ?_⟩⟩
    rintro ⟨⟨h, -⟩, -⟩
    cases h
  | append_singleton calls next ih =>
    obtain ⟨places, hlist, hordered, hstands⟩ := ih
    rw [afterCalls_concat]
    cases next with
    | register c =>
      obtain ⟨e, hcall⟩ | ⟨-, hcall⟩ := call_register_refused_or (afterCalls calls) c
      · -- the same commands at the same places
        refine ⟨places, by rw [hcall, hlist], hordered, fun n d => ?_⟩
        rw [hstands, standsAt_concat_of_refused hcall]
      · -- one command more, at a later place than all others
        refine ⟨places ++ [(calls.length, c)], ?_, ?_, fun n d => ?_⟩
        · rw [hcall, commands, List.map_append, List.map_append, ← hlist]
          rfl
        · rw [List.pairwise_append]
          refine ⟨hordered, List.pairwise_singleton _ _, ?_⟩
          intro a ha b hb
          obtain rfl := List.mem_singleton.1 hb
          exact ((hstands a.1 a.2).1 ha).1.lt_length
        · rw [List.mem_append, hstands, List.mem_singleton, Prod.mk.injEq,
            standsAt_concat_of_registered hcall]
    | unregister name =>
      refine ⟨places.filter fun a => !(a.2.name == name), ?_, hordered.filter _, fun n d => ?_⟩
      · show ((afterCalls calls).unregister name).2.commands = _
        rw [(built_afterCalls calls).commands_unregister, hlist, List.filter_map]
        rfl
      · rw [List.mem_filter, hstands, standsAt_concat_unregister]
        simp

theorem mem_commands_iff {calls : List (Call κ)} {c : Command κ} :
    c ∈ (afterCalls calls).commands ↔ ∃ n, StandsAt calls n c := by
  obtain ⟨places, hlist, -, hstands⟩ := exists_places calls
  rw [hlist, List.mem_map]
  constructor
  · rintro ⟨⟨n, d⟩, hmem, rfl⟩
    exact ⟨n, (hstands n d).1 hmem⟩
  · rintro ⟨n, h⟩
    exact ⟨(n, c), (hstands n c).2 h, rfl⟩

/-- **While a registration stands, no other one under its name succeeds.** -/
theorem StandsAt.latest {calls : List (Call κ)} {n m : Nat} {c d : Command κ}
    (h : StandsAt calls n c) (hd : RegisteredAt calls m d) (hname : d.name = c.name) : m ≤ n := by
  induction calls using List.reverseRecOn with
  | nil => cases hd.1
  | append_singleton calls next ih =>
    rcases standsAt_concat.1 h with ⟨hold, -⟩ | ⟨rfl, -⟩
    · rcases registeredAt_concat.1 hd with hd | ⟨-, -, hnew⟩
      · exact ih hold hd
      · -- the name was taken when the last call was made
        have htaken : d.name ∈ (afterCalls calls).keys := by
          rw [hname, (built_afterCalls calls).keys_eq]
          exact List.mem_map_of_mem (mem_commands_iff.2 ⟨n, hold⟩)
        obtain ⟨e, hcall⟩ | ⟨hfree, -⟩ := call_register_refused_or (afterCalls calls) d
        · rw [hcall] at hnew
          cases hnew
        · exact absurd htaken hfree
    · -- the last call is the latest of all
      have hlt := hd.lt_length
      rw [List.length_append, List.length_singleton] at hlt
      omega

/-- **Every run of calls is recorded.** -/
theorem records_afterCalls (calls : List (Call κ)) : (afterCalls calls).Records calls where
  listed := exists_places calls
  keyed e he := ((built_afterCalls calls).keyed e he).1
  latest n c h m d := h.latest
  distinct := (built_afterCalls calls).distinct
  visible_eq := rfl
  found_iff name := by
    rw [← contains_eq_isSome_find?, contains_iff, (built_afterCalls calls).keys_eq]
  found_eq name c h := by
    obtain ⟨hmem, hname⟩ := (built_afterCalls calls).find?_eq_some_iff.1 h
    exact ⟨hname, mem_commands_iff.1 hmem⟩
  allowed c hc := isCommandName_iff.1 ((built_afterCalls calls).isCommandName c hc)
  refuses_invalid c := by
    rw [← isCommandName_eq_false_iff]
    obtain ⟨hname, hcall⟩ | ⟨hname, -, hcall⟩ | ⟨hname, -, hcall⟩ :=
      call_register_cases (afterCalls calls) c
    all_goals simp [hcall, hname]
  refuses_duplicate c := by
    rw [← (built_afterCalls calls).keys_eq]
    obtain ⟨hname, hcall⟩ | ⟨-, htaken, hcall⟩ | ⟨-, hfree, hcall⟩ :=
      call_register_cases (afterCalls calls) c
    · -- a name that is refused as it stands is not taken, since taken names are names
      have hfree : c.name ∉ (afterCalls calls).keys := by
        rw [(built_afterCalls calls).keys_eq]
        intro h
        obtain ⟨d, hd, heq⟩ := List.mem_map.1 h
        have hallowed := (built_afterCalls calls).isCommandName d hd
        rw [heq, hname] at hallowed
        cases hallowed
      simp [hcall, hfree]
    · simp [hcall, htaken]
    · simp [hcall, hfree]
  refused_keeps c e h := by
    obtain ⟨-, hcall⟩ | ⟨-, -, hcall⟩ | ⟨-, -, hcall⟩ := call_register_cases (afterCalls calls) c
    all_goals rw [hcall] at h ⊢
    all_goals cases h
    · exact ⟨.inl rfl, rfl⟩
    · exact ⟨.inr rfl, rfl⟩
  unregister_keeps name := by
    refine ⟨rfl, fun hfree => ?_⟩
    rw [← (built_afterCalls calls).keys_eq] at hfree
    have hnone : ∀ e ∈ (afterCalls calls).entries, ¬ (e.1 == name) = true := by
      intro e he heq
      rw [beq_iff_eq] at heq
      exact hfree (heq ▸ List.mem_map_of_mem he)
    show Registry.mk ((afterCalls calls).entries.eraseP _) = _
    rw [List.eraseP_of_forall_not hnone]

/-- A command that is registered again goes to the end. -/
example : (afterCalls [.register (.plain "a" ()), .register (.plain "b" ()), .unregister "a",
    .register (.plain "a" ())]).commands.map Command.name = [['b'], ['a']] := by decide

end CommandConsole.Registry
