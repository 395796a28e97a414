/-!
# Text and its UTF-8 offsets

A **text** is a list of characters, so every operation on a line is a list operation and
every induction on it is a list induction. Positions, on the other hand, are counted in
the bytes of the text's UTF-8 encoding: that is what spans, error messages and snippets
speak in. This module keeps the two apart. Only the functions below turn one into the
other:

* `Text.byteLength` measures a text;
* `Text.takeBytes?` and `Text.dropBytes?` cut at an offset, and refuse one that falls
  inside a character or past the end;
* `Text.slice` cuts a range, and is empty where the range is no slice of the text;
* `Text.splitFloor` cuts at the last character boundary at or before an offset.

The lemmas say that measure and cuts respect concatenation: an offset given by
`byteLength` always cuts, and cuts where one expects (`dropBytes?_append`,
`takeBytes?_append`, `slice_append_append`).
-/

namespace CommandConsole

/-- A text is a list of Unicode scalar values. -/
abbrev Text : Type := List Char

/-- String literals stand for the texts they spell. -/
instance : Coe String Text := ⟨String.toList⟩

namespace Text

/-- The number of bytes of the UTF-8 encoding. -/
def byteLength : Text → Nat
  | [] => 0
  | c :: rest => c.utf8Size + byteLength rest

/-- What is left after the first `n` bytes, if `n` is the offset of a character boundary. -/
def dropBytes? : Nat → Text → Option Text
  | 0, text => some text
  | _ + 1, [] => none
  | n + 1, c :: rest => if c.utf8Size ≤ n + 1 then dropBytes? (n + 1 - c.utf8Size) rest else none

/-- The first `n` bytes, if `n` is the offset of a character boundary. -/
def takeBytes? : Nat → Text → Option Text
  | 0, _ => some []
  | _ + 1, [] => none
  | n + 1, c :: rest =>
    if c.utf8Size ≤ n + 1 then (takeBytes? (n + 1 - c.utf8Size) rest).map (c :: ·) else none

/-- The bytes from `start` up to `stop`, if both are character boundaries in this order. -/
def slice? (text : Text) (start stop : Nat) : Option Text :=
  if start ≤ stop then (dropBytes? start text).bind (takeBytes? (stop - start)) else none

/-- The bytes from `start` up to `stop`, and nothing where they are no slice of the text. -/
def slice (text : Text) (start stop : Nat) : Text :=
  (slice? text start stop).getD []

/-- Cuts a text at the last character boundary that is not past `n`. -/
def splitFloor : Nat → Text → Text × Text
  | _, [] => ([], [])
  | n, c :: rest =>
    if c.utf8Size ≤ n then
      let (before, after) := splitFloor (n - c.utf8Size) rest
      (c :: before, after)
    else ([], c :: rest)

/-- Texts in a row, with `gap` between each two. -/
def joinWith (gap : Text) : List Text → Text
  | [] => []
  | [t] => t
  | t :: u :: rest => t ++ gap ++ joinWith gap (u :: rest)

/-- Separates a text at every occurrence of `mark`; there is one part more than marks. -/
def splitAt (mark : Char) : Text → List Text
  | [] => [[]]
  | c :: rest =>
    if c = mark then [] :: splitAt mark rest
    else match splitAt mark rest with
      | [] => [[c]]
      | part :: parts => (c :: part) :: parts

/-! ### The measure -/

@[simp] theorem byteLength_nil : byteLength [] = 0 := rfl

@[simp] theorem byteLength_cons (c : Char) (rest : Text) :
    byteLength (c :: rest) = c.utf8Size + byteLength rest := rfl

@[simp] theorem byteLength_append (a b : Text) :
    byteLength (a ++ b) = byteLength a + byteLength b := by
  induction a with
  | nil => simp
  | cons c a ih => simp [ih, Nat.add_assoc]

/-! ### Cuts at a measured offset -/

theorem dropBytes?_cons (n : Nat) (c : Char) (rest : Text) :
    dropBytes? (c.utf8Size + n) (c :: rest) = dropBytes? n rest := by
  have hc := c.utf8Size_pos
  obtain ⟨k, hk⟩ : ∃ k, c.utf8Size + n = k + 1 := ⟨c.utf8Size + n - 1, by omega⟩
  rw [hk, dropBytes?, if_pos (by omega), show k + 1 - c.utf8Size = n by omega]

theorem takeBytes?_cons (n : Nat) (c : Char) (rest : Text) :
    takeBytes? (c.utf8Size + n) (c :: rest) = (takeBytes? n rest).map (c :: ·) := by
  have hc := c.utf8Size_pos
  obtain ⟨k, hk⟩ : ∃ k, c.utf8Size + n = k + 1 := ⟨c.utf8Size + n - 1, by omega⟩
  rw [hk, takeBytes?, if_pos (by omega), show k + 1 - c.utf8Size = n by omega]

/-- Dropping the bytes of a leading part leaves what follows it. -/
theorem dropBytes?_append (a b : Text) : dropBytes? (byteLength a) (a ++ b) = some b := by
  induction a with
  | nil => simp [dropBytes?]
  | cons c a ih => simp [dropBytes?_cons, ih]

/-- Taking the bytes of a leading part gives that part. -/
theorem takeBytes?_append (a b : Text) : takeBytes? (byteLength a) (a ++ b) = some a := by
  induction a with
  | nil => simp [takeBytes?]
  | cons c a ih => simp [takeBytes?_cons, ih]

/-- The middle of three parts is the slice between their offsets. -/
theorem slice_append_append (a b c : Text) :
    slice (a ++ b ++ c) (byteLength a) (byteLength a + byteLength b) = b := by
  simp [slice, slice?, dropBytes?_append, takeBytes?_append]

/-- A floor cut loses nothing. -/
theorem splitFloor_append (n : Nat) (text : Text) :
    (splitFloor n text).1 ++ (splitFloor n text).2 = text := by
  induction text generalizing n with
  | nil => rfl
  | cons c rest ih =>
    unfold splitFloor
    split
    · simp [ih]
    · rfl

end Text

end CommandConsole
