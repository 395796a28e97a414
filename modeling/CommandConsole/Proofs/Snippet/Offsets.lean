import CommandConsole.Proofs.Snippet.Window

/-!
# Snippets by offsets

`Span.snippet` counts characters. A snippet can also be made by going from offset to offset, with
numbers of one machine word and with slices that have to fall on character boundaries
(`Snippet.byOffsets?`): the anchor is found by stepping back; the offset where the shown text starts
is that of the last character met on the way back from the anchor, and the offset where it stops is
the end of the last character met on the way on; where no character is met, the anchor and the end
of the line stand in. A slice that does not exist leaves it without an answer (`none`).

It never is, and gives the same text (`Snippet.byOffsets?_eq`). The sums stay within the line, which
fits a word, with one exception: the greatest width of all has no successor. Then no character is
met on the way on, and the end of the line stands in, which is where the greatest width reaches
anyway.

The main statement, `Snippet.shows_window`, holds both: what a snippet shows, and that it can be
made by offsets.
-/

namespace CommandConsole.Snippet

open Text (byteLength ends IsBoundary IsFloor splitFloor stepBack)

/-! ### Making a snippet by offsets -/

/-- The numbers that fit a machine word. -/
def wordCount : Nat := UInt64.size

/-- Adds two words; a sum that does not fit wraps around. -/
def wordAdd (a b : Nat) : Nat := (a + b) % wordCount

/-- **The characters of a text with their offsets**, in a text that starts at byte `pos`. -/
def indexed (pos : Nat) : Text → List (Nat × Char)
  | [] => []
  | c :: rest => (pos, c) :: indexed (pos + c.utf8Size) rest

/-- The offset of the last character met on the way back from the end of `before`, `width`
characters far. -/
def startOffset? (before : Text) (width : Nat) : Option Nat :=
  ((indexed 0 before).reverse.take width).getLast?.map Prod.fst

/-- The end of the last character met on the way through `after`, `count` characters far. -/
def stopOffset? (anchor : Nat) (after : Text) (count : Nat) : Option Nat :=
  ((indexed 0 after).take count).getLast?.map fun (i, c) =>
    wordAdd (wordAdd anchor i) c.utf8Size

/-- **The text of a snippet, by offsets.** -/
def byOffsets? (line : Text) (span : Span) (width : Nat) : Option Text := do
  let size := byteLength line
  let anchor := stepBack line (min span.start size)
  let before ← Text.slice? line 0 anchor
  let after ← Text.slice? line anchor size
  let start := (startOffset? before width).getD anchor
  let stop := (stopOffset? anchor after (wordAdd width 1)).getD size
  let back ← Text.slice? line start anchor
  let caretStop := stepBack line (max (min span.stop stop) anchor)
  let marked ← Text.slice? line anchor caretStop
  let piece ← Text.slice? line start stop
  some (piece ++ '\n' :: (List.replicate back.length ' ' ++
    List.replicate (max marked.length 1) '^'))

/-! ### The characters met -/

theorem indexed_append (pos : Nat) (front back : Text) :
    indexed pos (front ++ back) = indexed pos front ++ indexed (pos + byteLength front) back := by
  induction front generalizing pos with
  | nil => rfl
  | cons c front ih =>
    rw [List.cons_append, indexed, indexed, ih, Text.byteLength_cons, ← Nat.add_assoc,
      List.cons_append]

theorem length_indexed (pos : Nat) (text : Text) : (indexed pos text).length = text.length := by
  induction text generalizing pos with
  | nil => rfl
  | cons c rest ih => rw [indexed, List.length_cons, List.length_cons, ih]

/-- A leading part that is as long as can be is what is taken. -/
theorem take_append_of_length {α : Type} {front back : List α} {n : Nat}
    (h : front.length = min n (front ++ back).length) : (front ++ back).take n = front := by
  rw [List.length_append] at h
  by_cases hle : n ≤ front.length + back.length
  · apply List.take_left'
    omega
  · -- all of it is taken, and all of it is the leading part
    obtain rfl : back = [] := List.eq_nil_of_length_eq_zero (by omega)
    rw [List.append_nil, List.take_of_length_le (by omega)]

/-- **On the way back**, the last character met is the first one shown. -/
theorem startOffset?_eq {hidden back : Text} {width : Nat}
    (hback : back.length = min width (hidden ++ back).length) :
    (startOffset? (hidden ++ back) width).getD (byteLength (hidden ++ back)) =
      byteLength hidden := by
  have htake : (indexed 0 (hidden ++ back)).reverse.take width =
      (indexed (0 + byteLength hidden) back).reverse := by
    rw [indexed_append, List.reverse_append]
    apply take_append_of_length
    rw [List.length_append, List.length_reverse, List.length_reverse, length_indexed,
      length_indexed]
    rw [List.length_append] at hback
    omega
  rw [startOffset?, htake, List.getLast?_reverse, Nat.zero_add]
  cases back with
  | nil => rw [List.append_nil, indexed, List.head?_nil, Option.map_none, Option.getD_none]
  | cons c back => rfl

theorem wordAdd_eq {a b : Nat} (h : a + b < wordCount) : wordAdd a b = a + b :=
  Nat.mod_eq_of_lt h

/-- **On the way on**, the last character met is the last one shown. -/
theorem stopOffset?_eq {shown rest : Text} {anchor count : Nat} (hcount : 0 < count)
    (hshown : shown.length = min count (shown ++ rest).length)
    (hfits : anchor + byteLength (shown ++ rest) < wordCount) :
    (stopOffset? anchor (shown ++ rest) count).getD (anchor + byteLength (shown ++ rest)) =
      anchor + byteLength shown := by
  have htake : (indexed 0 (shown ++ rest)).take count = indexed 0 shown := by
    rw [indexed_append]
    apply take_append_of_length
    rw [List.length_append, length_indexed, length_indexed]
    rw [List.length_append] at hshown
    exact hshown
  rw [stopOffset?, htake]
  rcases List.eq_nil_or_concat shown with rfl | ⟨init, c, rfl⟩
  · -- no character is met only where there is none
    rw [eq_nil_of_shown_eq_nil hcount hshown rfl]
    rfl
  · rw [List.concat_eq_append] at hfits ⊢
    simp only [Text.byteLength_append, Text.byteLength_cons, Text.byteLength_nil] at hfits ⊢
    rw [indexed_append, indexed, indexed, List.getLast?_concat, Nat.zero_add]
    show wordAdd (wordAdd anchor (byteLength init)) c.utf8Size = _
    rw [wordAdd_eq (a := anchor) (by omega), wordAdd_eq (by omega)]
    omega

/-- **The greatest width** has no successor, and reaches to the end of the line. -/
theorem stopOffset?_wordAdd {shown rest : Text} {anchor width : Nat} (hwidth : width < wordCount)
    (hshown : shown.length = min (width + 1) (shown ++ rest).length)
    (hfits : anchor + byteLength (shown ++ rest) < wordCount) :
    (stopOffset? anchor (shown ++ rest) (wordAdd width 1)).getD
        (anchor + byteLength (shown ++ rest)) = anchor + byteLength shown := by
  by_cases hlast : width + 1 = wordCount
  · have hwrap : wordAdd width 1 = 0 := by
      rw [wordAdd, hlast, Nat.mod_self]
    have hlength := Text.length_le_byteLength (shown ++ rest)
    obtain rfl : rest = [] := by
      apply List.eq_nil_of_length_eq_zero
      rw [List.length_append] at hshown hlength
      omega
    rw [hwrap, stopOffset?, List.take_zero, List.append_nil]
    rfl
  · rw [wordAdd_eq (by omega)]
    exact stopOffset?_eq (Nat.succ_pos width) hshown hfits

/-- **The carets stop** behind the last shown character that ends inside the span. -/
theorem isFloor_caretStop (before shown rest : Text) (stop : Nat) :
    IsFloor (before ++ (shown ++ rest))
      (max (min stop (byteLength before + byteLength shown)) (byteLength before))
      (byteLength before + byteLength (splitFloor (stop - byteLength before) shown).1) := by
  have hfloor := Text.isFloor_splitFloor (stop - byteLength before) shown
  have hle := hfloor.le
  have hshown := hfloor.boundary.le_byteLength
  refine ⟨(hfloor.boundary.append rest).add before, by omega, ?_⟩
  intro b hb hmax
  by_cases hanchor : b ≤ byteLength before
  · omega
  · -- a boundary behind the anchor is one of the shown text
    obtain ⟨m, hm, rfl⟩ := hb.exists_add (by omega)
    have hgreatest := hfloor.greatest m (hm.of_append (by omega)) (by omega)
    omega

/-! ### The same text -/

/-- **By offsets, a snippet has the same text**, and no slice is missing. -/
theorem byOffsets?_eq {line : Text} {width : Nat} (span : Span)
    (hline : byteLength line < wordCount) (hwidth : width < wordCount) :
    byOffsets? line span width = some (span.snippet line width) := by
  obtain ⟨hidden, back, shown, rest, carets, hwindow, htext⟩ := exists_isWindow line span width
  obtain ⟨rfl, hfloor, hback, hshown, hcarets⟩ := hwindow
  -- each offset is a place between two of the parts
  have hsize : byteLength (hidden ++ back ++ (shown ++ rest)) =
      byteLength (hidden ++ back) + byteLength (shown ++ rest) := Text.byteLength_append _ _
  have hanchor := (Text.isFloor_stepBack _ _).unique hfloor
  have hstart := startOffset?_eq hback
  have hstop := stopOffset?_wordAdd hwidth hshown (hsize ▸ hline)
  rw [← hsize] at hstop
  -- but for the one where the carets stop, which cuts what is shown once more
  have hcaret := (Text.isFloor_stepBack _ _).unique
    (isFloor_caretStop (hidden ++ back) shown rest span.stop)
  have hmarkedShown := Text.splitFloor_append (span.stop - byteLength (hidden ++ back)) shown
  have hcount := Text.length_splitFloor (byteLength (hidden ++ back)) span.stop shown
  generalize Text.splitFloor (span.stop - byteLength (hidden ++ back)) shown = cut
    at hcaret hmarkedShown hcount
  obtain ⟨marked, unmarked⟩ := cut
  -- so each slice is some of the parts in a row
  have hslices : ∀ a b c : Text, hidden ++ back ++ (shown ++ rest) = a ++ (b ++ c) →
      Text.slice? (hidden ++ back ++ (shown ++ rest)) (byteLength a)
        (byteLength a + byteLength b) = some b := by
    intro a b c hcut
    rw [hcut]
    exact Text.slice?_middle rfl rfl
  have hbeforeSlice := hslices [] (hidden ++ back) (shown ++ rest) rfl
  have hafterSlice := hslices (hidden ++ back) (shown ++ rest) [] (by simp)
  have hbackSlice := hslices hidden back (shown ++ rest) (by simp)
  have hmarkedSlice := hslices (hidden ++ back) marked (unmarked ++ rest)
    (by simp [← hmarkedShown])
  have hpieceSlice := hslices hidden (back ++ shown) rest (by simp)
  rw [Text.byteLength_nil, Nat.zero_add] at hbeforeSlice
  rw [← hsize] at hafterSlice
  rw [← Text.byteLength_append] at hbackSlice
  rw [Text.byteLength_append, ← Nat.add_assoc, ← Text.byteLength_append] at hpieceSlice
  -- with its offsets and slices in place, the text is the one of the window
  rw [byOffsets?]
  simp only [hanchor, hbeforeSlice, hafterSlice, Option.bind_eq_bind, Option.bind_some, hstart,
    hstop, hbackSlice, hcaret, hmarkedSlice, hpieceSlice]
  rw [htext, textOf, hcarets, ← hcount, Nat.max_comm]

/-- **What a snippet shows.** It is a piece of the line around the floor of the place where the span
starts, with a caret under each of its characters from there on that ends inside the span, and at
least one; the carets stay under the piece, but for a single one at the end of the line. If widths
and offsets are words, it can be made by offsets: no slice is missing, also where the width has no
successor. -/
theorem shows_window (line : Text) (span : Span) (width : Nat) :
    (∃ hidden back shown rest carets, IsWindow line span width hidden back shown rest carets ∧
      span.snippet line width = back ++ shown ++
        '\n' :: (List.replicate back.length ' ' ++ List.replicate carets '^') ∧
      (carets ≤ shown.length ∨ (shown ++ rest = [] ∧ carets = 1))) ∧
    (byteLength line < wordCount → width < wordCount →
      byOffsets? line span width = some (span.snippet line width)) := by
  constructor
  · obtain ⟨hidden, back, shown, rest, carets, hwindow, htext⟩ := exists_isWindow line span width
    exact ⟨hidden, back, shown, rest, carets, hwindow, htext, hwindow.carets_le⟩
  · intro hline hwidth
    exact byOffsets?_eq span hline hwidth

/-- The greatest width, and a span that starts inside a character and ends before it starts. -/
theorem shows_window_greatest :
    byteLength "aé\"b".toList < wordCount ∧ wordCount - 1 < wordCount ∧
      byOffsets? "aé\"b".toList ⟨2, 1⟩ (wordCount - 1) =
        some (Span.snippet ⟨2, 1⟩ "aé\"b".toList (wordCount - 1)) ∧
      Span.snippet ⟨2, 1⟩ "aé\"b".toList (wordCount - 1) = "aé\"b\n ^".toList := by
  have hline : byteLength "aé\"b".toList < wordCount := by decide
  have hwidth : wordCount - 1 < wordCount := by decide
  exact ⟨hline, hwidth, (shows_window _ _ _).2 hline hwidth, by decide +kernel⟩

end CommandConsole.Snippet
