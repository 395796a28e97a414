import CommandConsole.Proofs.Argument.Roles

/-!
# Taking the flags out, in one look

`Argument.extractFlags` goes through a list of arguments from the last to the first and takes them
out one by one. What comes of it can be said of the list as a whole, by the shape of each argument:

* `Argument.lastMalformed?` — the last malformed argument, which is the error if there is one, and
  behind which alone flags have been taken out then (`Argument.extractFlags_of_malformed`);
* `Argument.positionals` and `Argument.denoted` — the positional arguments and the names that the
  flag arguments denote (`Argument.mem_insertAll_denoted_iff`), which are the result if there is
  none (`Argument.extractFlags_of_sound`).

The order in which names are put into a set of flags does not show, since sets with the same
members are equal.
-/

namespace CommandConsole.Argument

/-- The flags that an argument denotes; none, if it is no flag argument. -/
def flagNames (a : Argument) : List Text :=
  match role a.text with
  | .flags names => names
  | _ => []

/-- **The malformed argument that counts**: the last one in the list. -/
def lastMalformed? (args : List Argument) : Option Argument :=
  (args.filter fun a => IsMalformed a.text).getLast?

/-- The positional arguments, in the order of the list. -/
def positionals (args : List Argument) : List Argument :=
  args.filter fun a => IsPositional a.text

/-- All names that the arguments denote. -/
def denoted (args : List Argument) : List Text :=
  args.flatMap flagNames

theorem mem_flagNames_iff {a : Argument} {name : Text} :
    name ∈ flagNames a ↔ ∃ names, Denotes a.text names ∧ name ∈ names := by
  unfold flagNames
  constructor
  · intro h
    split at h
    · next names hrole => exact ⟨names, role_eq_flags_iff.1 hrole, h⟩
    · exact absurd h List.not_mem_nil
  · rintro ⟨names, hdenotes, hname⟩
    rw [role_eq_flags_iff.2 hdenotes]
    exact hname

/-- **The flags of a list** are the names that one of its arguments denotes. -/
theorem mem_insertAll_denoted_iff {args : List Argument} {name : Text} :
    name ∈ (∅ : FlagSet).insertAll (denoted args) ↔
      ∃ a ∈ args, ∃ names, Denotes a.text names ∧ name ∈ names := by
  have hempty : name ∉ (∅ : FlagSet) := FlagSet.not_mem_empty name
  simp only [FlagSet.mem_insertAll, denoted, List.mem_flatMap, mem_flagNames_iff, hempty, or_false]

theorem positionals_cons_of_isPositional {a : Argument} (h : IsPositional a.text)
    (rest : List Argument) : positionals (a :: rest) = a :: positionals rest :=
  List.filter_cons_of_pos (decide_eq_true h)

theorem positionals_cons_of_denotes {a : Argument} {names : List Text} (h : Denotes a.text names)
    (rest : List Argument) : positionals (a :: rest) = positionals rest :=
  List.filter_cons_of_neg (by simpa using h.not_isPositional)

/-- An argument in front is the last malformed one only if it is malformed itself and no later one
is. -/
theorem lastMalformed?_cons (a : Argument) (rest : List Argument) :
    lastMalformed? (a :: rest) =
      (lastMalformed? rest).or (if IsMalformed a.text then some a else none) := by
  unfold lastMalformed?
  by_cases h : IsMalformed a.text
  · rw [List.filter_cons_of_pos (by simpa using h), List.getLast?_cons, if_pos h]
    cases (rest.filter fun b => IsMalformed b.text).getLast? <;> rfl
  · rw [List.filter_cons_of_neg (by simpa using h), if_neg h, Option.or_none]

/-- **Without a malformed argument** the positional arguments are left, and the flags are all names
that are denoted. -/
theorem extractFlags_of_sound {args : List Argument} (h : lastMalformed? args = none) :
    extractFlags args = ⟨.ok ((∅ : FlagSet).insertAll (denoted args)), positionals args⟩ := by
  induction args with
  | nil => rfl
  | cons a rest ih =>
    rw [lastMalformed?_cons, Option.or_eq_none_iff] at h
    obtain ⟨hrest, ha⟩ := h
    rw [extractFlags, ih hrest]
    cases hrole : role a.text with
    | positional =>
      rw [positionals_cons_of_isPositional (role_eq_positional_iff.1 hrole)]
      simp [denoted, flagNames, hrole]
    | malformed => simp [role_eq_malformed_iff.1 hrole] at ha
    | flags names =>
      have hset : ((∅ : FlagSet).insertAll (denoted rest)).insertAll names =
          (∅ : FlagSet).insertAll (denoted (a :: rest)) := by
        refine FlagSet.ext_mem fun name => ?_
        simp [denoted, flagNames, hrole, or_assoc]
      rw [positionals_cons_of_denotes (role_eq_flags_iff.1 hrole)]
      simp only [hset]

/-- There is a last malformed argument unless all are sound. -/
theorem lastMalformed?_eq_none_iff {args : List Argument} :
    lastMalformed? args = none ↔ ∀ a ∈ args, ¬ IsMalformed a.text := by
  simp [lastMalformed?]

/-- Of the malformed arguments there is a last one. -/
theorem isSome_lastMalformed?_iff {args : List Argument} :
    (lastMalformed? args).isSome = true ↔ ∃ a ∈ args, IsMalformed a.text := by
  rw [Option.isSome_iff_ne_none, Ne, lastMalformed?_eq_none_iff]
  simp only [Classical.not_forall, Classical.not_not, exists_prop]

/-- **The last malformed argument** has only sound ones behind it. -/
theorem exists_append_of_lastMalformed? {args : List Argument} {bad : Argument}
    (h : lastMalformed? args = some bad) :
    ∃ before after, args = before ++ bad :: after ∧ IsMalformed bad.text ∧
      lastMalformed? after = none := by
  induction args with
  | nil => cases h
  | cons a rest ih =>
    rw [lastMalformed?_cons] at h
    cases hrest : lastMalformed? rest with
    | some later =>
      obtain rfl : later = bad := by simpa [hrest] using h
      obtain ⟨before, after, rfl, hbad, hafter⟩ := ih hrest
      exact ⟨a :: before, after, rfl, hbad, hafter⟩
    | none =>
      -- all later arguments are sound, so it is this one
      obtain ⟨ha, rfl⟩ : IsMalformed a.text ∧ a = bad := by simpa [hrest] using h
      exact ⟨[], rest, rfl, ha, hrest⟩

/-- **With a malformed argument** the extraction fails with the last one, and has taken out the
flags behind it only. -/
theorem extractFlags_of_malformed {before after : List Argument} {bad : Argument}
    (hbad : IsMalformed bad.text) (hafter : lastMalformed? after = none) :
    extractFlags (before ++ bad :: after) = ⟨.error bad, before ++ bad :: positionals after⟩ := by
  induction before with
  | nil =>
    rw [List.nil_append, extractFlags, extractFlags_of_sound hafter]
    simp only [role_eq_malformed_iff.2 hbad]
    rfl
  | cons a before ih =>
    rw [List.cons_append, extractFlags, ih]
    rfl

/-- The error of the extraction is its last malformed argument. -/
theorem flags_extractFlags_of_malformed {args : List Argument} {bad : Argument}
    (h : lastMalformed? args = some bad) : (extractFlags args).flags = .error bad := by
  obtain ⟨before, after, rfl, hbad, hafter⟩ := exists_append_of_lastMalformed? h
  rw [extractFlags_of_malformed hbad hafter]

end CommandConsole.Argument
