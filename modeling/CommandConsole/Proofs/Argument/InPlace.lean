import CommandConsole.Proofs.Argument.Extraction
import Mathlib.Data.List.Induction

/-!
# Taking the flags out in place

A list of arguments that is stored in one place can have its flags taken out there. The places are
visited from the last to the first. A flag argument is removed where it stands, and whatever stands
behind it moves up by one; a malformed argument ends the visit, and the list is left as it is at
that moment. `Argument.extractInPlace?` goes by places in this way, and has no answer (`none`) if it
ever asks for a place, or removes from one, that the list does not have by then.

What holds during the visit is `Argument.extractBelow?_append`. When the places below `n` are still
to be visited, the first `n` arguments stand where they always did, behind them stand the positional
ones among all others, and the flags of all others have been collected. So a removal moves only what
was visited before, and every place that is asked for is there.

The main statement, `Argument.extractFlags_by_shape`, says what comes of it by the shapes of the
texts alone (`Argument.IsExtraction`), with and without a malformed argument, and that it does not
matter where the flag arguments stand.
-/

namespace CommandConsole.Argument

/-! ### Going by places -/

/-- The list without its argument at place `n`, if it has one there. -/
def remove? (n : Nat) (args : List Argument) : Option (List Argument) :=
  if n < args.length then some (args.eraseIdx n) else none

/-- **Visits the places below `n`**, the last of them first; `flags` are those collected so far. -/
def extractBelow? : Nat → List Argument → FlagSet → Option Extraction
  | 0, args, flags => some ⟨.ok flags, args⟩
  | n + 1, args, flags => do
    let a ← args[n]?
    match role a.text with
    | .positional => extractBelow? n args flags
    | .flags names =>
      let fewer ← remove? n args
      extractBelow? n fewer (flags.insertAll names)
    | .malformed => some ⟨.error a, args⟩

/-- Takes the flags out of a list of arguments, place by place. -/
def extractInPlace? (args : List Argument) : Option Extraction :=
  extractBelow? args.length args ∅

theorem getElem?_length_append (front : List Argument) (a : Argument) (back : List Argument) :
    (front ++ a :: back)[front.length]? = some a := by
  rw [List.getElem?_append_right (Nat.le_refl _), Nat.sub_self]
  rfl

theorem remove?_length_append (front : List Argument) (a : Argument) (back : List Argument) :
    remove? front.length (front ++ a :: back) = some (front ++ back) := by
  have hlt : front.length < (front ++ a :: back).length := by
    rw [List.length_append, List.length_cons]
    omega
  rw [remove?, if_pos hlt, List.eraseIdx_append_of_length_le (Nat.le_refl _), Nat.sub_self]
  rfl

/-- It does not show in a set which names were put in first. -/
theorem insertAll_denoted_cons (a : Argument) (back : List Argument) :
    ((∅ : FlagSet).insertAll (denoted back)).insertAll (flagNames a) =
      (∅ : FlagSet).insertAll (denoted (a :: back)) := by
  apply FlagSet.ext_mem
  intro name
  simp [denoted, or_assoc]

/-- **What holds during the visit.** `back` has been visited, and nothing in it is malformed. -/
theorem extractBelow?_append (front back : List Argument) (hback : lastMalformed? back = none) :
    extractBelow? front.length (front ++ positionals back)
        ((∅ : FlagSet).insertAll (denoted back)) = some (extractFlags (front ++ back)) := by
  -- the visit goes towards the front, so the last argument of `front` is the next one
  induction front using List.reverseRecOn generalizing back with
  | nil =>
    rw [List.nil_append, List.nil_append, extractFlags_of_sound hback]
    rfl
  | append_singleton front a ih =>
    rw [List.length_append, List.length_singleton, ← List.append_cons, ← List.append_cons,
      extractBelow?, getElem?_length_append, Option.bind_eq_bind, Option.bind_some]
    have hstill : ¬ IsMalformed a.text → lastMalformed? (a :: back) = none := by
      intro ha
      rw [lastMalformed?_cons, hback, if_neg ha]
      rfl
    have hflags := insertAll_denoted_cons a back
    unfold flagNames at hflags
    cases hrole : role a.text with
    | positional =>
      -- the argument stays, and has no flags
      have hmore := ih (a :: back) (hstill (by simp [← role_eq_malformed_iff, hrole]))
      rw [hrole] at hflags
      rw [← hflags, positionals_cons_of_isPositional (role_eq_positional_iff.1 hrole)] at hmore
      exact hmore
    | flags names =>
      -- the argument goes, and those behind it move up to where the visit has been
      have hmore := ih (a :: back) (hstill (by simp [← role_eq_malformed_iff, hrole]))
      rw [hrole] at hflags
      rw [← hflags, positionals_cons_of_denotes (role_eq_flags_iff.1 hrole)] at hmore
      simp only [remove?_length_append, Option.bind_eq_bind, Option.bind_some]
      exact hmore
    | malformed =>
      rw [extractFlags_of_malformed (role_eq_malformed_iff.1 hrole) hback]

/-- **No place is ever missing**, and what comes of it is the extraction. -/
theorem extractInPlace?_eq (args : List Argument) :
    extractInPlace? args = some (extractFlags args) := by
  have h := extractBelow?_append args [] rfl
  rw [List.append_nil] at h
  show extractBelow? args.length args ∅ = _
  rw [← h, positionals, List.filter_nil, List.append_nil]
  rfl

/-! ### The extraction by the shapes of the texts -/

/-- **What the extraction comes to**, by the shapes of the texts. -/
inductive IsExtraction (args : List Argument) : Extraction → Prop where
  /-- No argument is malformed: the positional ones are left, and the flags are all that the others
  denote. -/
  | sound {flags : FlagSet} (hsound : ∀ a ∈ args, ¬ IsMalformed a.text)
      (hflags : ∀ name, name ∈ flags ↔ ∃ a ∈ args, ∃ names, Denotes a.text names ∧ name ∈ names) :
      IsExtraction args ⟨.ok flags, args.filter fun a => IsPositional a.text⟩
  /-- `bad` is the last malformed argument: up to it the list is untouched, and behind it the
  positional ones are left. -/
  | malformed {before after : List Argument} {bad : Argument}
      (hsplit : args = before ++ bad :: after) (hbad : IsMalformed bad.text)
      (hafter : ∀ a ∈ after, ¬ IsMalformed a.text) :
      IsExtraction args
        ⟨.error bad, before ++ bad :: after.filter fun a => IsPositional a.text⟩

theorem isExtraction_extractFlags (args : List Argument) :
    IsExtraction args (extractFlags args) := by
  cases hbad : lastMalformed? args with
  | none =>
    rw [extractFlags_of_sound hbad]
    refine .sound (lastMalformed?_eq_none_iff.1 hbad) ?_
    intro name
    exact mem_insertAll_denoted_iff
  | some bad =>
    obtain ⟨before, after, rfl, hmalformed, hafter⟩ := exists_append_of_lastMalformed? hbad
    rw [extractFlags_of_malformed hmalformed hafter]
    exact .malformed rfl hmalformed (lastMalformed?_eq_none_iff.1 hafter)

/-- The shapes leave no choice. -/
theorem IsExtraction.extractFlags_eq {args : List Argument} {e : Extraction}
    (h : IsExtraction args e) : extractFlags args = e := by
  cases h with
  | @sound flags hsound hflags =>
    have hall : (∅ : FlagSet).insertAll (denoted args) = flags := by
      apply FlagSet.ext_mem
      intro name
      rw [mem_insertAll_denoted_iff, hflags]
    rw [extractFlags_of_sound (lastMalformed?_eq_none_iff.2 hsound), hall, positionals]
  | malformed hsplit hbad hafter =>
    rw [hsplit, extractFlags_of_malformed hbad (lastMalformed?_eq_none_iff.2 hafter), positionals]

/-- **Flag arguments that stand elsewhere**: the arguments are the same, and the positional ones are
in the same order. -/
structure MovesFlags (moved args : List Argument) : Prop where
  perm : moved.Perm args
  positional : moved.filter (fun a => IsPositional a.text) =
    args.filter fun a => IsPositional a.text

theorem MovesFlags.extractFlags_eq {moved args : List Argument} (h : MovesFlags moved args)
    (hsound : ∀ a ∈ args, ¬ IsMalformed a.text) : extractFlags moved = extractFlags args := by
  have hsound' : ∀ a ∈ moved, ¬ IsMalformed a.text := by
    intro a ha
    exact hsound a (h.perm.mem_iff.1 ha)
  have hflags : (∅ : FlagSet).insertAll (denoted moved) =
      (∅ : FlagSet).insertAll (denoted args) := by
    apply FlagSet.ext_mem
    intro name
    simp only [mem_insertAll_denoted_iff, h.perm.mem_iff]
  rw [extractFlags_of_sound (lastMalformed?_eq_none_iff.2 hsound'),
    extractFlags_of_sound (lastMalformed?_eq_none_iff.2 hsound), hflags, positionals, positionals,
    h.positional]

/-- **Taking the flags out is one look at the list.** Place by place, no place is ever missing; what
comes of it is said by the shapes of the texts, and nothing else comes of it; it succeeds exactly if
no argument is malformed, and then it does not matter where the flag arguments stand. -/
theorem extractFlags_by_shape (args : List Argument) :
    extractInPlace? args = some (extractFlags args) ∧
      (∀ e, extractFlags args = e ↔ IsExtraction args e) ∧
      ((∃ flags, (extractFlags args).flags = .ok flags) ↔ ∀ a ∈ args, ¬ IsMalformed a.text) ∧
      ∀ moved, MovesFlags moved args → (∀ a ∈ args, ¬ IsMalformed a.text) →
        extractFlags moved = extractFlags args := by
  refine ⟨extractInPlace?_eq args, ?_, ?_, ?_⟩
  · intro e
    constructor
    · intro h
      rw [← h]
      exact isExtraction_extractFlags args
    · exact IsExtraction.extractFlags_eq
  · have hextraction := isExtraction_extractFlags args
    generalize extractFlags args = e at hextraction ⊢
    cases hextraction with
    | @sound flags hsound _ => exact ⟨fun _ => hsound, fun _ => ⟨flags, rfl⟩⟩
    | @malformed before after bad hsplit hbad _ =>
      constructor
      · rintro ⟨flags, hflags⟩
        cases hflags
      · intro hsound
        have hmem : bad ∈ args := by
          rw [hsplit]
          exact List.mem_append_right before List.mem_cons_self
        exact absurd hbad (hsound bad hmem)
  · intro moved hmoved hsound
    exact hmoved.extractFlags_eq hsound

/-- Two positional arguments, the lone mark among them, and flags of both kinds. -/
def mixed : List Argument :=
  [⟨"é", ⟨0, 2⟩⟩, ⟨"?xé", ⟨3, 7⟩⟩, ⟨"?", ⟨8, 9⟩⟩, ⟨"??up", ⟨10, 14⟩⟩]

/-- The same with all flags in front. -/
def mixedMoved : List Argument :=
  [⟨"??up", ⟨10, 14⟩⟩, ⟨"?xé", ⟨3, 7⟩⟩, ⟨"é", ⟨0, 2⟩⟩, ⟨"?", ⟨8, 9⟩⟩]

theorem extractFlags_by_shape_mixed :
    MovesFlags mixedMoved mixed ∧ (∀ a ∈ mixed, ¬ IsMalformed a.text) ∧
      extractFlags mixedMoved = extractFlags mixed ∧
      (extractFlags mixed).left = [⟨"é", ⟨0, 2⟩⟩, ⟨"?", ⟨8, 9⟩⟩] := by
  have hmoved : MovesFlags mixedMoved mixed := ⟨by decide, by decide⟩
  have hsound : ∀ a ∈ mixed, ¬ IsMalformed a.text :=
    lastMalformed?_eq_none_iff.1 (by decide)
  exact ⟨hmoved, hsound, (extractFlags_by_shape mixed).2.2.2 mixedMoved hmoved hsound, by decide⟩

end CommandConsole.Argument
