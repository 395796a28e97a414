import CommandConsole.Text.Basic

/-!
# Sets of flags

The flags of a command are a set of names: a flag given twice is given once, and the order
of the flags on the line does not matter. A `FlagSet` holds the names in ascending order of
their code points, which is also the order they are shown in. The order is part of the
type, so two sets with the same members are equal (`FlagSet.ext_mem`).
-/

namespace CommandConsole

/-- A finite set of flag names. -/
structure FlagSet where
  /-- The names in ascending order. -/
  names : List Text
  ascending : names.Pairwise (· < ·)
  deriving DecidableEq

namespace FlagSet

/-- No flags. -/
def empty : FlagSet := ⟨[], .nil⟩

instance : Inhabited FlagSet := ⟨empty⟩

instance : EmptyCollection FlagSet := ⟨empty⟩

instance : Membership Text FlagSet := ⟨fun s name => name ∈ s.names⟩

instance (name : Text) (s : FlagSet) : Decidable (name ∈ s) :=
  inferInstanceAs (Decidable (name ∈ s.names))

/-- Puts a name at its place in an ascending list. -/
def place (name : Text) : List Text → List Text
  | [] => [name]
  | other :: rest =>
    if name < other then name :: other :: rest
    else if other < name then other :: place name rest
    else other :: rest

theorem eq_of_not_lt {a b : Text} (h : ¬ a < b) (h' : ¬ b < a) : a = b :=
  List.le_antisymm (List.not_lt.1 h') (List.not_lt.1 h)

theorem mem_place {name other : Text} {names : List Text} :
    other ∈ place name names ↔ other = name ∨ other ∈ names := by
  induction names with
  | nil => simp [place]
  | cons n rest ih =>
    rw [place]
    split
    · simp
    · split
      · simp only [List.mem_cons, ih, or_left_comm]
      · next h h' =>
        rw [eq_of_not_lt h h']
        simp

theorem place_ascending {name : Text} {names : List Text} (h : names.Pairwise (· < ·)) :
    (place name names).Pairwise (· < ·) := by
  induction names with
  | nil => simp [place]
  | cons n rest ih =>
    rw [List.pairwise_cons] at h
    rw [place]
    split
    -- the name goes in front of `n`
    next hlt =>
      rw [List.pairwise_cons, List.pairwise_cons]
      refine ⟨fun m hm => ?_, h⟩
      rcases List.mem_cons.1 hm with rfl | hm
      · exact hlt
      · exact List.lt_trans hlt (h.1 m hm)
    next =>
      split
      -- the name goes further back
      next hgt =>
        rw [List.pairwise_cons]
        refine ⟨fun m hm => ?_, ih h.2⟩
        rcases mem_place.1 hm with rfl | hm
        · exact hgt
        · exact h.1 m hm
      -- the name is `n`, and there already
      next => exact List.pairwise_cons.2 h

/-- With one more name. -/
def insert (s : FlagSet) (name : Text) : FlagSet :=
  ⟨place name s.names, place_ascending s.ascending⟩

/-- With some more names. -/
def insertAll (s : FlagSet) (names : List Text) : FlagSet :=
  names.foldl insert s

@[simp] theorem not_mem_empty (name : Text) : name ∉ empty := List.not_mem_nil

@[simp] theorem mem_insert {s : FlagSet} {name other : Text} :
    other ∈ s.insert name ↔ other = name ∨ other ∈ s := mem_place

@[simp] theorem mem_insertAll {s : FlagSet} {names : List Text} {name : Text} :
    name ∈ s.insertAll names ↔ name ∈ names ∨ name ∈ s := by
  induction names generalizing s with
  | nil => simp [insertAll]
  | cons n rest ih =>
    rw [insertAll, List.foldl_cons, ← insertAll, ih, mem_insert, List.mem_cons]
    grind

/-- Two ascending lists with the same members are the same list. -/
theorem names_ext {a b : List Text} (ha : a.Pairwise (· < ·)) (hb : b.Pairwise (· < ·))
    (h : ∀ name, name ∈ a ↔ name ∈ b) : a = b := by
  induction a generalizing b with
  | nil =>
    cases b with
    | nil => rfl
    | cons n _ => exact absurd ((h n).2 List.mem_cons_self) List.not_mem_nil
  | cons m rest ih =>
    cases b with
    | nil => exact absurd ((h m).1 List.mem_cons_self) List.not_mem_nil
    | cons n others =>
      rw [List.pairwise_cons] at ha hb
      have hmn : m = n := by
        rcases List.mem_cons.1 ((h m).1 List.mem_cons_self) with hm | hm
        · exact hm
        · rcases List.mem_cons.1 ((h n).2 List.mem_cons_self) with hn | hn
          · exact hn.symm
          · exact absurd (List.lt_trans (hb.1 m hm) (ha.1 n hn)) (List.lt_irrefl n)
      subst hmn
      refine congrArg (m :: ·) (ih ha.2 hb.2 fun name => ?_)
      have := h name
      simp only [List.mem_cons] at this
      constructor
      · intro hr
        rcases this.1 (Or.inr hr) with rfl | ho
        · exact absurd (ha.1 _ hr) (List.lt_irrefl _)
        · exact ho
      · intro ho
        rcases this.2 (Or.inr ho) with rfl | hr
        · exact absurd (hb.1 _ ho) (List.lt_irrefl _)
        · exact hr

/-- Sets with the same members are equal. -/
theorem ext_mem {s t : FlagSet} (h : ∀ name, name ∈ s ↔ name ∈ t) : s = t := by
  obtain ⟨a, ha⟩ := s
  obtain ⟨b, hb⟩ := t
  simp only [mk.injEq]
  exact names_ext ha hb h

end FlagSet

end CommandConsole
