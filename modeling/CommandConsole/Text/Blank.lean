import CommandConsole.Text.Basic

/-!
# Blanks

A **blank** is a character with the `White_Space` property: twenty-five of them, of which
ASCII has six. Blanks separate words, and a text of nothing else is a blank line.

* `Text.trim` and `Text.trimEnd` remove blanks at the ends;
* `Text.isAllBlank` recognises a blank line, and agrees with trimming to nothing
  (`trim_eq_nil_iff`).
-/

namespace CommandConsole

/-- The characters with the `White_Space` property. -/
def isBlank (c : Char) : Bool :=
  let n := c.toNat
  (0x09 ≤ n && n ≤ 0x0d) || n == 0x20 || n == 0x85 || n == 0xa0 || n == 0x1680 ||
    (0x2000 ≤ n && n ≤ 0x200a) || n == 0x2028 || n == 0x2029 || n == 0x202f ||
    n == 0x205f || n == 0x3000

namespace Text

/-- Nothing but blanks. -/
def isAllBlank (text : Text) : Bool :=
  text.all isBlank

/-- Without the blanks at the front. -/
def trimStart (text : Text) : Text :=
  text.dropWhile isBlank

/-- Without the blanks at the end. -/
def trimEnd (text : Text) : Text :=
  (text.reverse.dropWhile isBlank).reverse

/-- Without the blanks at both ends. -/
def trim (text : Text) : Text :=
  trimEnd (trimStart text)

theorem dropWhile_isBlank_eq_nil_iff (text : Text) :
    text.dropWhile isBlank = [] ↔ isAllBlank text = true := by
  induction text with
  | nil => simp [isAllBlank]
  | cons c rest ih =>
    by_cases hc : isBlank c = true
    · simp only [List.dropWhile_cons, hc, if_true, ih, isAllBlank, List.all_cons, Bool.true_and]
    · simp [hc, isAllBlank]

theorem trimEnd_eq_nil_iff (text : Text) : trimEnd text = [] ↔ isAllBlank text = true := by
  rw [trimEnd, List.reverse_eq_nil_iff, dropWhile_isBlank_eq_nil_iff]
  simp [isAllBlank]

/-- Trimming leaves nothing of a blank text, and something of every other one. -/
theorem trim_eq_nil_iff (text : Text) : trim text = [] ↔ isAllBlank text = true := by
  rw [trim, trimEnd_eq_nil_iff, trimStart]
  induction text with
  | nil => rfl
  | cons c rest ih =>
    by_cases hc : isBlank c = true
    · simpa [List.dropWhile_cons, hc, isAllBlank] using ih
    · simp [hc, isAllBlank]

end Text

end CommandConsole
