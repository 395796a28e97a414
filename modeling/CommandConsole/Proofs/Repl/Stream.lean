import CommandConsole.Reading

/-!
# Lines that come from a stream

Lines are fed to the prompt as bytes: each line in UTF-8, with a line feed behind it
(`Reading.encodeLines`). They come as they were written if they are **plain**: without a line feed,
which would cut them, without a carriage return at the end, which would be taken for a part of the
line's end, and without a backspace, which would be obeyed (`Reading.obeyed_ofStream_encodeLines`).

It rests on a property of UTF-8: the byte of the line feed occurs in the encoding of no other
character (`Reading.eq_of_mem_utf8EncodeChar`).
-/

namespace CommandConsole.Reading

/-- **A plain line**: it is read from a stream as it was written. -/
structure IsPlain (line : Text) : Prop where
  no_lineFeed : '\n' ∉ line
  no_backspace : '\x08' ∉ line
  no_return : line.getLast? ≠ some '\r'

/-- The bytes of a text. -/
def encode (text : Text) : List UInt8 := text.flatMap String.utf8EncodeChar

/-- The bytes of some lines, each with its line feed. -/
def encodeLines (lines : List Text) : List UInt8 :=
  lines.flatMap fun line => encode line ++ [10]

/-- **The byte of the line feed** stands for nothing else. -/
theorem eq_of_mem_utf8EncodeChar {c : Char} (h : 10 ∈ String.utf8EncodeChar c) : c = '\n' := by
  have hbyte : ∀ n : Nat, (10 : UInt8) = UInt8.ofNat n → n % 256 = 10 := by
    intro n hn
    have htoNat := congrArg UInt8.toNat hn
    rw [UInt8.toNat_ofNat'] at htoNat
    exact htoNat.symm
  have hlarge : ∀ n : Nat, 128 ≤ n % 256 → (10 : UInt8) ≠ UInt8.ofNat n := by
    intro n hn heq
    have := hbyte n heq
    omega
  simp only [String.utf8EncodeChar] at h
  split at h
  · next hsmall =>
    have hvalue := hbyte _ (List.mem_singleton.1 h)
    have hc : c.val.toNat = 10 := by omega
    exact Char.ext (UInt32.toNat_inj.1 hc)
  · -- the bytes of a longer encoding are all at least 128
    exfalso
    split at h
    · simp only [List.mem_cons, List.not_mem_nil, or_false] at h
      rcases h with h | h <;> exact hlarge _ (by omega) h
    · split at h
      · simp only [List.mem_cons, List.not_mem_nil, or_false] at h
        rcases h with h | h | h <;> exact hlarge _ (by omega) h
      · simp only [List.mem_cons, List.not_mem_nil, or_false] at h
        rcases h with h | h | h | h <;> exact hlarge _ (by omega) h

theorem not_mem_encode {text : Text} (h : '\n' ∉ text) : 10 ∉ encode text := by
  intro hmem
  obtain ⟨c, hc, hbyte⟩ := List.mem_flatMap.1 hmem
  rw [eq_of_mem_utf8EncodeChar hbyte] at hc
  exact h hc

/-- A stream is cut behind its first line feed. -/
theorem cutLines_append {bytes : List UInt8} (h : 10 ∉ bytes) (rest : List UInt8) :
    cutLines (bytes ++ 10 :: rest) = (bytes ++ [10]) :: cutLines rest := by
  induction bytes with
  | nil => rw [List.nil_append, cutLines, if_pos rfl, List.nil_append]
  | cons b bytes ih =>
    obtain ⟨hb, hbytes⟩ := not_or.1 (mt List.mem_cons.2 h)
    rw [List.cons_append, cutLines, if_neg (Ne.symm hb), ih hbytes, List.cons_append]

theorem ofBytes_encode (text : Text) : ofBytes (encode text) = line (chomp text) := by
  have hbytes : (⟨(encode text).toArray⟩ : ByteArray) = (String.ofList text).toByteArray := by
    rw [String.toByteArray_ofList]
    exact ByteArray.ext (List.data_toByteArray ..).symm
  -- these are the bytes of a string, so they are valid and decode to it
  have hvalid : (⟨(encode text).toArray⟩ : ByteArray).IsValidUTF8 := by
    rw [hbytes]
    exact (String.ofList text).isValidUTF8
  have hread : String.fromUTF8? ⟨(encode text).toArray⟩ = some (String.ofList text) := by
    rw [String.fromUTF8?, dif_pos hvalid, Option.some_inj]
    exact String.toByteArray_inj.1 hbytes
  rw [ofBytes, hread]
  simp only [String.toList_ofList]

/-- The line feed at the end is taken off, and no more if no carriage return stands before it. -/
theorem chomp_append {text : Text} (h : text.getLast? ≠ some '\r') :
    chomp (text ++ ['\n']) = text := by
  have hreverse : (text ++ ['\n']).reverse = '\n' :: text.reverse := by
    rw [List.reverse_append]
    rfl
  rw [chomp, hreverse]
  rw [← List.head?_reverse] at h
  -- the character in front of the line feed decides
  cases hbefore : text.reverse with
  | nil =>
    rw [← List.reverse_reverse text, hbefore]
    rfl
  | cons c before =>
    rw [hbefore, List.head?_cons] at h
    split
    · next heq =>
      cases heq
      exact absurd rfl h
    · next heq =>
      cases heq
      rw [← hbefore, List.reverse_reverse]
    · next hother => exact absurd rfl (hother _)

theorem withoutBackspaces_eq {text : Text} (h : '\x08' ∉ text) :
    Text.withoutBackspaces text = text := by
  rw [Text.withoutBackspaces, if_neg]
  rwa [List.contains_iff_mem]

/-- **Plain lines are read from a stream as they were written.** -/
theorem obeyed_ofStream_encodeLines {lines : List Text} (h : ∀ l ∈ lines, IsPlain l) :
    (ofStream (encodeLines lines)).map obeyed = lines.map line := by
  induction lines with
  | nil => rfl
  | cons l rest ih =>
    obtain ⟨hl, hrest⟩ := List.forall_mem_cons.1 h
    have hend : encode l ++ [10] = encode (l ++ ['\n']) := by
      rw [encode, encode, List.flatMap_append]
      rfl
    -- the first line feed is the one that was put behind the first line
    have hstream : ofStream (encodeLines (l :: rest)) =
        line l :: ofStream (encodeLines rest) := by
      rw [ofStream, encodeLines, List.flatMap_cons, List.append_assoc, List.singleton_append,
        cutLines_append (not_mem_encode hl.no_lineFeed), List.map_cons, hend, ofBytes_encode,
        chomp_append hl.no_return]
      rfl
    rw [hstream, List.map_cons, ih hrest, List.map_cons, obeyed,
      withoutBackspaces_eq hl.no_backspace]

end CommandConsole.Reading
