import CommandConsole.Argument

/-!
# What the text of an argument says

`Argument.role` takes a text apart character by character. Here the three roles are described by the
shape of the whole text, without that function:

* a text is **positional** if it does not start with a `?`, or is a `?` alone
  (`Argument.IsPositional`);
* it **denotes** flags if it is a `?` with letters behind it, one flag for each, or a `??` with
  letters of the ASCII alphabet behind it, which are one name (`Argument.Denotes`);
* it is **malformed** if it is neither (`Argument.IsMalformed`).

The two alphabets differ, and `???` belongs to neither: a `?` is no letter. This is also why the two
shapes of flags do not overlap. `Argument.role` finds the role by these descriptions
(`Argument.role_eq_positional_iff`, `Argument.role_eq_flags_iff`,
`Argument.role_eq_malformed_iff`).
-/

namespace CommandConsole.Argument

/-- **A text that is no flag.** -/
def IsPositional (text : Text) : Prop := text.head? ≠ some '?' ∨ text = ['?']

instance (text : Text) : Decidable (IsPositional text) :=
  inferInstanceAs (Decidable (text.head? ≠ some '?' ∨ text = ['?']))

/-- **A text that denotes flags**, and the names of the flags. -/
inductive Denotes : Text → List Text → Prop where
  | name {letters : Text} (ne_nil : letters ≠ []) (all : ∀ c ∈ letters, c.isAlpha = true) :
      Denotes ('?' :: '?' :: letters) [letters]
  | letters {letters : Text} (ne_nil : letters ≠ []) (all : ∀ c ∈ letters, isLetter c = true) :
      Denotes ('?' :: letters) (letters.map fun c => [c])

/-- **A text that is meant as a flag and is none.** -/
def IsMalformed (text : Text) : Prop := ¬ IsPositional text ∧ ∀ names, ¬ Denotes text names

/-! ### The role of each shape -/

theorem role_of_isPositional {text : Text} (h : IsPositional text) : role text = .positional := by
  cases text with
  | nil => rfl
  | cons mark body =>
    by_cases hmark : mark = '?'
    · -- the mark alone is no flag
      subst hmark
      rcases h with h | h
      · exact absurd rfl h
      · obtain rfl := (List.cons.inj h).2
        rfl
    · simp [role, flagMark, hmark]

theorem role_of_denotes {text : Text} {names : List Text} (h : Denotes text names) :
    role text = .flags names := by
  cases h with
  | @name letters ne_nil all =>
    have hall : letters.all Char.isAlpha = true := List.all_eq_true.2 all
    obtain ⟨c, rest, rfl⟩ := List.exists_cons_of_ne_nil ne_nil
    rw [role, if_neg (by simp [flagMark])]
    exact if_pos hall
  | @letters letters ne_nil all =>
    have hall : letters.all isLetter = true := List.all_eq_true.2 all
    obtain ⟨c, rest, rfl⟩ := List.exists_cons_of_ne_nil ne_nil
    -- the mark is no letter, so this is not the other way to write a flag
    have hc : c ≠ '?' := by
      rintro rfl
      exact absurd (all '?' List.mem_cons_self) (by decide)
    rw [role, if_neg (by simp [flagMark])]
    · exact if_pos hall
    · intro _ _ heq
      exact hc (List.cons.inj heq).1

theorem role_of_isMalformed {text : Text} (h : IsMalformed text) : role text = .malformed := by
  obtain ⟨hpositional, hdenotes⟩ := h
  cases text with
  | nil => exact absurd (.inl nofun) hpositional
  | cons mark body =>
    by_cases hmark : mark = '?'
    · subst hmark
      cases body with
      | nil => exact absurd (.inr rfl) hpositional
      | cons c rest =>
        -- a second mark decides which alphabet counts, but only with something behind it
        by_cases hname : ∃ d more, c :: rest = '?' :: d :: more
        · obtain ⟨d, more, heq⟩ := hname
          rw [heq] at hdenotes ⊢
          rw [role, if_neg (by simp [flagMark])]
          refine if_neg ?_
          intro hall
          exact hdenotes _ (.name (List.cons_ne_nil d more) (List.all_eq_true.1 hall))
        · rw [role, if_neg (by simp [flagMark])]
          · refine if_neg ?_
            intro hall
            exact hdenotes _ (.letters (List.cons_ne_nil c rest) (List.all_eq_true.1 hall))
          · intro d more heq
            exact hname ⟨d, more, heq⟩
    · refine absurd (.inl ?_) hpositional
      intro hhead
      exact hmark (Option.some.inj hhead)

/-! ### The shape of each role -/

/-- Every text has the shape of its role. -/
theorem shape_of_role (text : Text) :
    match role text with
    | .positional => IsPositional text
    | .flags names => Denotes text names
    | .malformed => IsMalformed text := by
  by_cases hpositional : IsPositional text
  · rw [role_of_isPositional hpositional]
    exact hpositional
  · by_cases hdenotes : ∃ names, Denotes text names
    · obtain ⟨names, h⟩ := hdenotes
      rw [role_of_denotes h]
      exact h
    · have h : IsMalformed text := by
        refine ⟨hpositional, ?_⟩
        intro names h
        exact hdenotes ⟨names, h⟩
      rw [role_of_isMalformed h]
      exact h

theorem role_eq_positional_iff {text : Text} : role text = .positional ↔ IsPositional text := by
  constructor
  · intro hrole
    have h := shape_of_role text
    rwa [hrole] at h
  · exact role_of_isPositional

theorem role_eq_flags_iff {text : Text} {names : List Text} :
    role text = .flags names ↔ Denotes text names := by
  constructor
  · intro hrole
    have h := shape_of_role text
    rwa [hrole] at h
  · exact role_of_denotes

theorem role_eq_malformed_iff {text : Text} : role text = .malformed ↔ IsMalformed text := by
  constructor
  · intro hrole
    have h := shape_of_role text
    rwa [hrole] at h
  · exact role_of_isMalformed

instance (text : Text) : Decidable (IsMalformed text) := decidable_of_iff _ role_eq_malformed_iff

/-- A text that denotes flags is not positional. -/
theorem Denotes.not_isPositional {text : Text} {names : List Text} (h : Denotes text names) :
    ¬ IsPositional text := by
  intro hpositional
  rw [← role_eq_positional_iff, role_of_denotes h] at hpositional
  cases hpositional

end CommandConsole.Argument
