import CommandConsole.Text.Basic

/-!
# Sets of characters given by ranges

Character properties that no short rule describes are kept as **range tables**: lists of
closed intervals of code points in ascending order. `Ranges.contains` is membership in one
of the intervals, and `mem_iff` says so.
-/

namespace CommandConsole

/-- Closed intervals of code points, in ascending order. -/
abbrev Ranges : Type := List (Nat × Nat)

namespace Ranges

/-- Whether a code point lies in one of the intervals. The intervals ascend, so the search
ends at the first that does not lie wholly below the code point. -/
def contains : Ranges → Nat → Bool
  | [], _ => false
  | (lo, hi) :: rest, n => if n ≤ hi then lo ≤ n else contains rest n

/-- Each interval is in order, and lies above the one before it. -/
def Ascending (table : Ranges) : Prop :=
  (∀ r ∈ table, r.1 ≤ r.2) ∧ table.Pairwise (fun r s => r.2 < s.1)

/-- In an ascending table, the search finds exactly the code points of the intervals. -/
theorem contains_iff {table : Ranges} (h : Ascending table) (n : Nat) :
    contains table n = true ↔ ∃ r ∈ table, r.1 ≤ n ∧ n ≤ r.2 := by
  induction table with
  | nil => simp [contains]
  | cons r rest ih =>
    obtain ⟨horder, hpair⟩ := h
    rw [List.pairwise_cons] at hpair
    have hrest : Ascending rest := ⟨fun s hs => horder s (List.mem_cons_of_mem _ hs), hpair.2⟩
    obtain ⟨lo, hi⟩ := r
    rw [contains]
    split
    next hle =>
      simp only [decide_eq_true_eq, List.mem_cons, exists_eq_or_imp]
      constructor
      · exact fun hlo => Or.inl ⟨hlo, hle⟩
      · rintro (⟨hlo, _⟩ | ⟨s, hs, hlo, _⟩)
        · exact hlo
        · have := hpair.1 s hs
          have := horder (lo, hi) List.mem_cons_self
          simp only at *
          omega
    next hgt =>
      simp only [List.mem_cons, exists_eq_or_imp, ih hrest]
      constructor
      · exact Or.inr
      · rintro (⟨_, hle⟩ | hs)
        · exact absurd hle hgt
        · exact hs

end Ranges

end CommandConsole
