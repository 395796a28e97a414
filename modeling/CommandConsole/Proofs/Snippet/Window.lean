import CommandConsole.Snippet
import CommandConsole.Proofs.Text.Floor

/-!
# What a snippet shows

A snippet shows a piece of the line around its **anchor**, which is the floor of the place where the
span starts. The line is cut in four (`Snippet.IsWindow`): what is hidden in front, what is shown up
to the anchor, what is shown from the anchor on, and what is hidden behind. Shown are as many
characters in front of the anchor as there are, up to the width, and one more from the anchor on.

`Snippet.exists_isWindow` says that the text of a snippet is made of such a piece, and of carets
under those of its characters that end inside the span.
-/

namespace CommandConsole.Snippet

/-- **A piece of a line around a span.** The line is `hidden ++ back ++ (shown ++ rest)`, with the
anchor in the middle. -/
structure IsWindow (line : Text) (span : Span) (width : Nat) (hidden back shown rest : Text)
    (carets : Nat) : Prop where
  line_eq : line = hidden ++ back ++ (shown ++ rest)
  anchor : Text.IsFloor line (min span.start (Text.byteLength line))
    (Text.byteLength (hidden ++ back))
  length_back : back.length = min width (hidden ++ back).length
  length_shown : shown.length = min (width + 1) (shown ++ rest).length
  /-- A caret for each shown character that ends inside the span, and at least one. -/
  carets_eq : carets = max 1
    ((Text.ends (Text.byteLength (hidden ++ back)) shown).countP (· ≤ span.stop))

/-- The text of a snippet that shows such a piece. -/
def textOf (back shown : Text) (carets : Nat) : Text :=
  back ++ shown ++ '\n' :: (List.replicate back.length ' ' ++ List.replicate carets '^')

/-- **A snippet shows a piece of the line around its span.** -/
theorem exists_isWindow (line : Text) (span : Span) (width : Nat) :
    ∃ hidden back shown rest carets, IsWindow line span width hidden back shown rest carets ∧
      span.snippet line width = textOf back shown carets := by
  have hfloor := Text.isFloor_splitFloor span.start line
  have hsplit := Text.splitFloor_append span.start line
  rw [Span.snippet, ofSpan]
  generalize Text.splitFloor span.start line = cut at hfloor hsplit ⊢
  obtain ⟨before, after⟩ := cut
  have hbefore := List.take_append_drop (before.length - width) before
  have hafter := List.take_append_drop (width + 1) after
  refine ⟨before.take (before.length - width), before.drop (before.length - width),
    after.take (width + 1), after.drop (width + 1), _, ⟨?_, ?_, ?_, ?_, rfl⟩, ?_⟩
  · rw [hbefore, hafter]
    exact hsplit.symm
  · rw [hbefore]
    exact hfloor.min_byteLength
  · rw [hbefore, List.length_drop]
    omega
  · rw [hafter, List.length_take]
  · rw [render, textOf, hbefore, ← Text.length_splitFloor]
    simp only [List.append_assoc, List.cons_append, List.nil_append]

/-- Where characters are to be shown and none is, there are none left. -/
theorem eq_nil_of_shown_eq_nil {shown rest : Text} {count : Nat} (hcount : 0 < count)
    (hlength : shown.length = min count (shown ++ rest).length) (hnil : shown = []) :
    rest = [] := by
  subst hnil
  rw [List.length_nil, List.nil_append] at hlength
  apply List.eq_nil_of_length_eq_zero
  omega

section Window

variable {line hidden back shown rest : Text} {span : Span} {width carets : Nat}

/-- **The carets stay under the shown text**, but for the one at the end of the line. -/
theorem IsWindow.carets_le (h : IsWindow line span width hidden back shown rest carets) :
    carets ≤ shown.length ∨ (shown ++ rest = [] ∧ carets = 1) := by
  have hcount := List.countP_le_length (p := (· ≤ span.stop))
    (l := Text.ends (Text.byteLength (hidden ++ back)) shown)
  rw [Text.length_ends] at hcount
  have hcarets := h.carets_eq
  by_cases hshown : shown = []
  · -- at least one character from the anchor on would be shown, so there is none
    have hrest := eq_nil_of_shown_eq_nil (Nat.succ_pos width) h.length_shown hshown
    subst hshown hrest
    rw [List.length_nil] at hcount
    exact .inr ⟨rfl, by omega⟩
  · have hpos := List.length_pos_iff.2 hshown
    exact .inl (by omega)

/-- **A span that starts at a character of the line** has its first caret under that character. -/
theorem IsWindow.exists_cons (h : IsWindow line span width hidden back shown rest carets)
    (hstart : Text.IsBoundary line span.start) (hlt : span.start < Text.byteLength line) :
    Text.byteLength (hidden ++ back) = span.start ∧ (∃ c more, shown = c :: more) ∧
      ∃ n, carets = n + 1 := by
  have hanchor : Text.byteLength (hidden ++ back) = span.start := by
    apply h.anchor.unique
    rw [Nat.min_eq_left (Nat.le_of_lt hlt)]
    exact hstart.isFloor
  refine ⟨hanchor, ?_, ⟨carets - 1, ?_⟩⟩
  · apply List.exists_cons_of_ne_nil
    intro hnil
    -- with nothing shown from the anchor on, the anchor would be the end of the line
    have hrest := eq_nil_of_shown_eq_nil (Nat.succ_pos width) h.length_shown hnil
    rw [h.line_eq, hnil, hrest, List.append_nil, List.append_nil, hanchor] at hlt
    exact absurd hlt (Nat.lt_irrefl _)
  · have hcarets := h.carets_eq
    omega

end Window

end CommandConsole.Snippet
