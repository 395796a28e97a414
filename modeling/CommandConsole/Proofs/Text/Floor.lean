import CommandConsole.Proofs.Text.Cut

/-!
# The boundary in front of an offset

An offset may fall inside a character or past the end of a text. Its **floor** is the last character
boundary that is not past it (`Text.IsFloor`). There are two ways to find it, and they find the same
one, since a floor is unique:

* walking over the characters from the front, as `Text.splitFloor` does
  (`Text.isFloor_splitFloor`);
* stepping back byte by byte, until there is a boundary (`Text.isFloor_stepBack`).

How many characters lie in front of a floor can be told by where they end: those that end at or
before the offset (`Text.length_splitFloor`).
-/

namespace CommandConsole.Text

/-- **The floor of the offset `n`.** -/
structure IsFloor (text : Text) (n floor : Nat) : Prop where
  boundary : IsBoundary text floor
  le : floor ≤ n
  greatest : ∀ b, IsBoundary text b → b ≤ n → b ≤ floor

/-- A boundary is its own floor. -/
theorem IsBoundary.isFloor {text : Text} {n : Nat} (h : IsBoundary text n) : IsFloor text n n where
  boundary := h
  le := Nat.le_refl n
  greatest := fun _ _ hle => hle

theorem IsFloor.unique {text : Text} {n f g : Nat} (hf : IsFloor text n f)
    (hg : IsFloor text n g) : f = g := by
  apply Nat.le_antisymm
  · exact hg.greatest f hf.boundary hf.le
  · exact hf.greatest g hg.boundary hg.le

/-- Past the end of the text, the offset does not matter. -/
theorem IsFloor.min_byteLength {text : Text} {n f : Nat} (h : IsFloor text n f) :
    IsFloor text (min n (byteLength text)) f where
  boundary := h.boundary
  le := by
    obtain ⟨before, after, rfl, rfl⟩ := h.boundary
    have hle := h.le
    rw [byteLength_append]
    omega
  greatest := by
    intro b hb hle
    exact h.greatest b hb (by omega)

/-! ### Boundaries of parts -/

theorem IsBoundary.le_byteLength {text : Text} {n : Nat} (h : IsBoundary text n) :
    n ≤ byteLength text := by
  obtain ⟨before, after, rfl, rfl⟩ := h
  rw [byteLength_append]
  omega

/-- A boundary of a leading part is one of the whole. -/
theorem IsBoundary.append {front : Text} {n : Nat} (h : IsBoundary front n) (back : Text) :
    IsBoundary (front ++ back) n := by
  obtain ⟨before, after, rfl, rfl⟩ := h
  exact ⟨before, after ++ back, by rw [List.append_assoc], rfl⟩

/-- A boundary that is not past a leading part is one of that part. -/
theorem IsBoundary.of_append {front back : Text} {n : Nat} (h : IsBoundary (front ++ back) n)
    (hle : n ≤ byteLength front) : IsBoundary front n := by
  obtain ⟨before, after, heq, rfl⟩ := h
  obtain ⟨m, rfl, -⟩ := exists_append_of_byteLength_le heq.symm hle
  exact ⟨before, m, rfl, rfl⟩

/-- A boundary of what follows is one of the whole, further on. -/
theorem IsBoundary.add {back : Text} {n : Nat} (h : IsBoundary back n) (front : Text) :
    IsBoundary (front ++ back) (byteLength front + n) := by
  obtain ⟨before, after, rfl, rfl⟩ := h
  exact ⟨front ++ before, after, by rw [List.append_assoc], byteLength_append front before⟩

/-- A boundary past a leading part is one of what follows. -/
theorem IsBoundary.exists_add {front back : Text} {n : Nat} (h : IsBoundary (front ++ back) n)
    (hle : byteLength front ≤ n) : ∃ m, IsBoundary back m ∧ n = byteLength front + m := by
  obtain ⟨before, after, heq, rfl⟩ := h
  obtain ⟨m, rfl, rfl⟩ := exists_append_of_byteLength_le heq hle
  exact ⟨byteLength m, ⟨m, after, rfl, rfl⟩, byteLength_append front m⟩

/-! ### Walking from the front -/

theorem isFloor_splitFloor (n : Nat) (text : Text) :
    IsFloor text n (byteLength (splitFloor n text).1) := by
  refine ⟨⟨_, _, (splitFloor_append n text).symm, rfl⟩, ?_, ?_⟩
  · induction text generalizing n with
    | nil => exact Nat.zero_le n
    | cons c rest ih =>
      rw [splitFloor]
      split
      · have hrest := ih (n - c.utf8Size)
        rw [byteLength_cons]
        omega
      · exact Nat.zero_le n
  · intro b hb hle
    induction text generalizing n b with
    | nil => exact hb.le_byteLength
    | cons c rest ih =>
      by_cases hzero : b = 0
      · rw [hzero]
        exact Nat.zero_le _
      · -- past its first character, the boundary is one of the rest
        have hfirst : c.utf8Size ≤ b := by
          obtain ⟨before, after, heq, rfl⟩ := hb
          cases before with
          | nil => exact absurd rfl hzero
          | cons d before =>
            obtain ⟨rfl, -⟩ := List.cons.inj heq
            exact Nat.le_add_right _ _
        have hb' : IsBoundary ([c] ++ rest) b := hb
        obtain ⟨m, hm, rfl⟩ := hb'.exists_add hfirst
        rw [byteLength_cons, byteLength_nil] at hle ⊢
        rw [splitFloor, if_pos (by omega)]
        have hrest := ih (n - c.utf8Size) m hm (by omega)
        rw [byteLength_cons]
        omega

/-! ### Stepping back -/

/-- **Steps back** from an offset, byte by byte, until there is a character boundary. -/
def stepBack (text : Text) : Nat → Nat
  | 0 => 0
  | n + 1 => if (dropBytes? (n + 1) text).isSome then n + 1 else stepBack text n

theorem exists_append_of_dropBytes? {text rest : Text} {n : Nat}
    (h : dropBytes? n text = some rest) :
    ∃ before, text = before ++ rest ∧ byteLength before = n := by
  fun_induction dropBytes? n text with
  | case1 text => exact ⟨[], Option.some.inj h, rfl⟩
  | case2 => cases h
  | case3 n c more hfits ih =>
    obtain ⟨before, rfl, hlength⟩ := ih h
    refine ⟨c :: before, rfl, ?_⟩
    rw [byteLength_cons]
    omega
  | case4 => cases h

/-- An offset can be cut at exactly if it is a boundary. -/
theorem isSome_dropBytes?_iff {text : Text} {n : Nat} :
    (dropBytes? n text).isSome = true ↔ IsBoundary text n := by
  constructor
  · intro h
    obtain ⟨after, hafter⟩ := Option.isSome_iff_exists.1 h
    obtain ⟨before, htext, hlength⟩ := exists_append_of_dropBytes? hafter
    exact ⟨before, after, htext, hlength⟩
  · rintro ⟨before, after, rfl, rfl⟩
    rw [dropBytes?_append]
    rfl

theorem isFloor_stepBack (text : Text) (n : Nat) : IsFloor text n (stepBack text n) := by
  induction n with
  | zero => exact IsBoundary.isFloor ⟨[], text, rfl, rfl⟩
  | succ n ih =>
    by_cases hboundary : IsBoundary text (n + 1)
    · rw [stepBack, if_pos (isSome_dropBytes?_iff.2 hboundary)]
      exact hboundary.isFloor
    · -- a floor of the offset before is one of this offset too
      rw [stepBack, if_neg (mt isSome_dropBytes?_iff.1 hboundary)]
      refine ⟨ih.boundary, Nat.le_succ_of_le ih.le, ?_⟩
      intro b hb hle
      have hne : b ≠ n + 1 := by
        rintro rfl
        exact hboundary hb
      exact ih.greatest b hb (by omega)

/-! ### Counting by ends -/

/-- **Where the characters end**, in a text that starts at byte `pos`. -/
def ends (pos : Nat) : Text → List Nat
  | [] => []
  | c :: rest => (pos + c.utf8Size) :: ends (pos + c.utf8Size) rest

theorem length_ends (pos : Nat) (text : Text) : (ends pos text).length = text.length := by
  induction text generalizing pos with
  | nil => rfl
  | cons c rest ih => rw [ends, List.length_cons, List.length_cons, ih]

theorem le_of_mem_ends {pos e : Nat} {text : Text} (h : e ∈ ends pos text) : pos ≤ e := by
  induction text generalizing pos with
  | nil => exact absurd h List.not_mem_nil
  | cons c rest ih =>
    rcases List.mem_cons.1 h with rfl | hrest
    · exact Nat.le_add_right _ _
    · exact Nat.le_trans (Nat.le_add_right _ _) (ih hrest)

/-- **In front of a floor are the characters that end at or before the offset.** -/
theorem length_splitFloor (pos n : Nat) (text : Text) :
    (splitFloor (n - pos) text).1.length = (ends pos text).countP (· ≤ n) := by
  induction text generalizing pos with
  | nil => rfl
  | cons c rest ih =>
    have hsize := c.utf8Size_pos
    rw [splitFloor, ends]
    by_cases hfits : pos + c.utf8Size ≤ n
    · have hrest := ih (pos + c.utf8Size)
      rw [← Nat.sub_sub] at hrest
      rw [if_pos (by omega), List.countP_cons_of_pos (p := (· ≤ n)) (decide_eq_true hfits), ← hrest]
      rfl
    · -- the later characters end further on still
      rw [if_neg (by omega), List.countP_cons_of_neg (p := (· ≤ n)) (by simpa using hfits)]
      symm
      rw [List.length_nil, List.countP_eq_zero]
      intro e he
      have hle := le_of_mem_ends he
      rw [decide_eq_true_iff]
      omega

end CommandConsole.Text
