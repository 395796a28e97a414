import CommandConsole.Text.Basic

/-!
# Cutting texts at byte offsets

Positions are byte offsets and texts are lists of characters, so whatever is said about a
position has to be turned into a statement about a way of writing the text as `before ++ after`.
This module does that once:

* `Text.IsBoundary` — an offset is the measure of a leading part of the text;
* `Text.exists_append_of_byteLength_le` — of two leading parts of one text, the one that is not
  longer is a leading part of the other;
* `Text.exists_append_of_isBoundary` — two boundaries in order cut a text in three, and the
  middle part is the slice between them.

A cut is determined by its offset (`Text.append_inj_of_byteLength`), because no character is
empty.
-/

namespace CommandConsole.Text

/-- **A character boundary**: the byte offset at which a character of the text starts, or at which
the text ends. -/
def IsBoundary (text : Text) (n : Nat) : Prop :=
  ∃ before after, text = before ++ after ∧ byteLength before = n

theorem byteLength_pos {text : Text} (h : text ≠ []) : 0 < byteLength text := by
  cases text with
  | nil => exact absurd rfl h
  | cons c rest =>
    have hc := c.utf8Size_pos
    rw [byteLength_cons]
    omega

/-- Every character takes up at least one byte. -/
theorem length_le_byteLength (text : Text) : text.length ≤ byteLength text := by
  induction text with
  | nil => exact Nat.le_refl 0
  | cons c rest ih =>
    have hpos := c.utf8Size_pos
    rw [List.length_cons, byteLength_cons]
    omega

theorem byteLength_replicate (n : Nat) (c : Char) :
    byteLength (List.replicate n c) = n * c.utf8Size := by
  induction n with
  | zero => rw [Nat.zero_mul, List.replicate_zero, byteLength_nil]
  | succ n ih => rw [List.replicate_succ, byteLength_cons, ih, Nat.succ_mul, Nat.add_comm]

theorem eq_nil_of_byteLength_eq_zero {text : Text} (h : byteLength text = 0) : text = [] := by
  by_cases hne : text = []
  · exact hne
  · have hpos := byteLength_pos hne
    omega

/-- What can be appended without adding to the measure is nothing. -/
theorem eq_nil_of_byteLength_append_le {a m : Text} (h : byteLength (a ++ m) ≤ byteLength a) :
    m = [] := by
  rw [byteLength_append] at h
  exact eq_nil_of_byteLength_eq_zero (by omega)

/-- **Leading parts are ordered by their measure.** If two parts lead the same text, the one that
measures less leads the other, and the difference is what leads the rest. -/
theorem exists_append_of_byteLength_le {a b c d : Text} (h : a ++ b = c ++ d)
    (hle : byteLength a ≤ byteLength c) : ∃ m, c = a ++ m ∧ b = m ++ d := by
  rcases List.append_eq_append_iff.1 h with ⟨m, hc, hb⟩ | ⟨m, ha, hd⟩
  · exact ⟨m, hc, hb⟩
  · -- `a` is `c` and something more, and there is no room for more
    rw [ha] at hle
    obtain rfl := eq_nil_of_byteLength_append_le hle
    exact ⟨[], by simpa using ha.symm, by simpa using hd.symm⟩

/-- **A cut is determined by its offset.** -/
theorem append_inj_of_byteLength {a b c d : Text} (h : a ++ b = c ++ d)
    (heq : byteLength a = byteLength c) : a = c ∧ b = d := by
  obtain ⟨m, rfl, rfl⟩ := exists_append_of_byteLength_le h (Nat.le_of_eq heq)
  obtain rfl := eq_nil_of_byteLength_append_le (Nat.le_of_eq heq.symm)
  exact ⟨by simp, by simp⟩

/-- **The middle part of a text** can be sliced out. -/
theorem slice?_middle {before middle after : Text} {start stop : Nat}
    (hstart : start = byteLength before) (hstop : stop = start + byteLength middle) :
    slice? (before ++ (middle ++ after)) start stop = some middle := by
  rw [hstop, hstart, slice?, if_pos (Nat.le_add_right _ _), Nat.add_sub_cancel_left,
    dropBytes?_append, Option.bind_some, takeBytes?_append]

/-- It is the slice between its offsets. -/
theorem slice_middle {before middle after : Text} {start stop : Nat}
    (hstart : start = byteLength before) (hstop : stop = start + byteLength middle) :
    slice (before ++ (middle ++ after)) start stop = middle := by
  rw [hstop, hstart, ← List.append_assoc]
  exact slice_append_append before middle after

/-- A slice that is not refused has its ends the right way round. -/
theorem le_of_slice?_eq_some {text part : Text} {start stop : Nat}
    (h : slice? text start stop = some part) : start ≤ stop := by
  unfold slice? at h
  split at h
  · next hle => exact hle
  · cases h

theorem slice_self (text : Text) (n : Nat) : slice text n n = [] := by
  rw [slice, slice?, if_pos (Nat.le_refl n), Nat.sub_self]
  cases dropBytes? n text with
  | none => rfl
  | some rest => rw [Option.bind_some, takeBytes?, Option.getD_some]

/-- What follows a leading part can be sliced off. -/
theorem slice?_append (before after : Text) :
    slice? (before ++ after) (byteLength before) (byteLength (before ++ after)) = some after := by
  have h : slice? (before ++ (after ++ [])) (byteLength before) (byteLength (before ++ after)) =
      some after := slice?_middle rfl (byteLength_append before after)
  rwa [List.append_nil] at h

/-- **Two boundaries cut a text in three**, and the part between them is the slice. -/
theorem exists_append_of_isBoundary {text : Text} {start stop : Nat} (hle : start ≤ stop)
    (hstart : IsBoundary text start) (hstop : IsBoundary text stop) :
    ∃ before middle after, text = before ++ (middle ++ after) ∧ byteLength before = start ∧
      stop = start + byteLength middle ∧ slice text start stop = middle := by
  obtain ⟨before, after, rfl, rfl⟩ := hstart
  obtain ⟨front, back, h, rfl⟩ := hstop
  obtain ⟨middle, rfl, rfl⟩ := exists_append_of_byteLength_le h hle
  refine ⟨before, middle, back, rfl, rfl, byteLength_append before middle, ?_⟩
  exact slice_middle rfl (byteLength_append before middle)

end CommandConsole.Text
