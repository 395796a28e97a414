import CommandConsole.Highlight.Markup

/-!
# Openings and closings of markup

Rich and ansi markup put a **tag** on either side of a coloured run. A tag starts with one character
and goes on to the first occurrence of another (`Dialect.edges?`): `<` and `>`, or the escape
character and `m`. What stands between them depends on the colour, but never contains the second
one, so that the end of a tag can be seen without knowing the colour.

* `Dialect.exists_opening_eq` and `Dialect.exists_closing_eq` — the opening of every colour and the
  closing are tags.
-/

namespace CommandConsole

namespace Color

/-- The digits of a channel are hexadecimal digits. -/
theorem not_mem_channelText {c : Char} (hc : ∀ k : Fin 16, hexDigit k ≠ c) (n : UInt8) :
    c ∉ channelText n := by
  have hn := n.toNat_lt
  have hhigh := hc ⟨n.toNat / 16, by omega⟩
  have hlow := hc ⟨n.toNat % 16, by omega⟩
  simp only [channelText, List.mem_cons, List.not_mem_nil, or_false, not_or]
  exact ⟨hhigh.symm, hlow.symm⟩

/-- A written colour is a `#` and hexadecimal digits. -/
theorem not_mem_toText {c : Char} (hhash : c ≠ '#') (hc : ∀ k : Fin 16, hexDigit k ≠ c)
    (color : Color) : c ∉ color.toText := by
  simp only [toText, List.mem_cons, List.mem_append, not_or]
  exact ⟨hhash, ⟨not_mem_channelText hc _, not_mem_channelText hc _⟩, not_mem_channelText hc _⟩

end Color

/-- A character that is no digit is not in a written number. -/
theorem Text.not_mem_toString {c : Char} (hc : c.isDigit = false) (n : Nat) :
    c ∉ (toString n).toList := by
  intro hmem
  -- the digits of the number are digits of base ten
  rw [Nat.toString_eq_repr, Nat.toList_repr] at hmem
  have hdigit := Nat.isDigit_of_mem_toDigits (by decide) (by decide) hmem
  rw [hc] at hdigit
  cases hdigit

namespace Dialect

/-- **The edges of the tags**: the character every tag starts with, and the one that ends it. -/
def edges? : Dialect → Option (Char × Char)
  | rich => some ('<', '>')
  | ansi => some ('\x1b', 'm')
  | plain => none

theorem opening_rich (c : Color) : opening rich c = "<color=" ++ c.toText ++ ">" := rfl

theorem opening_ansi (c : Color) :
    opening ansi c =
      '\x1b' :: '[' :: ("38;2;" ++ toString c.red.toNat ++ ";" ++ toString c.green.toNat ++ ";" ++
        toString c.blue.toNat ++ "m") := rfl

/-- **The opening of every colour is a tag.** -/
theorem exists_opening_eq {d : Dialect} {first last : Char} (h : d.edges? = some (first, last))
    (c : Color) : ∃ body, last ∉ body ∧ d.opening c = first :: (body ++ [last]) := by
  cases d with
  | rich =>
    obtain ⟨rfl, rfl⟩ : '<' = first ∧ '>' = last := by simpa [edges?] using h
    refine ⟨"color=".toList ++ c.toText, ?_, ?_⟩
    · rw [List.mem_append, not_or]
      exact ⟨by decide, Color.not_mem_toText (by decide) (by decide) c⟩
    · have hfront : "<color=".toList = '<' :: "color=".toList := by decide
      have hback : ">".toList = ['>'] := by decide
      rw [opening_rich, hfront, hback, List.cons_append, List.cons_append]
  | ansi =>
    obtain ⟨rfl, rfl⟩ : '\x1b' = first ∧ 'm' = last := by simpa [edges?] using h
    refine ⟨'[' :: ("38;2;".toList ++ (toString c.red.toNat).toList ++ ";".toList ++
      (toString c.green.toNat).toList ++ ";".toList ++ (toString c.blue.toNat).toList), ?_, ?_⟩
    · have hnumber := Text.not_mem_toString (c := 'm') rfl
      simp only [List.mem_cons, List.mem_append, not_or]
      exact ⟨by decide, ⟨⟨⟨⟨by decide, hnumber _⟩, by decide⟩, hnumber _⟩, by decide⟩, hnumber _⟩
    · have hback : "m".toList = ['m'] := by decide
      rw [opening_ansi, hback, List.cons_append]
  | plain => simp [edges?] at h

/-- **The closing is a tag.** -/
theorem exists_closing_eq {d : Dialect} {first last : Char} (h : d.edges? = some (first, last)) :
    ∃ body, last ∉ body ∧ d.closing = first :: (body ++ [last]) := by
  cases d with
  | rich =>
    obtain ⟨rfl, rfl⟩ : '<' = first ∧ '>' = last := by simpa [edges?] using h
    exact ⟨"/color".toList, by decide, rfl⟩
  | ansi =>
    obtain ⟨rfl, rfl⟩ : '\x1b' = first ∧ 'm' = last := by simpa [edges?] using h
    exact ⟨"[0".toList, by decide, rfl⟩
  | plain => simp [edges?] at h

end Dialect

end CommandConsole
