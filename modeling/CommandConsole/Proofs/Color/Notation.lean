import CommandConsole.Color
import CommandConsole.Proofs.Text.Cut

/-!
# The notation of colours

A colour is written with six hexadecimal digits, with or without a `#` in front of them
(`Color.Writes`). The digits may be of either case, so a colour can be written in several ways.
`Color.toText` chooses one of them: the `#` is there and the letters are capitals. Reading a text
and writing the colour again leaves the digits as they are, but for their case
(`Color.parse_eq_ok_iff`), and this one equation says nearly everything: which texts are read, that
what was written is read back, and that two texts write the same colour only if their digits differ
in case at most.

`Color.parse` goes by characters. `Color.byOffsets` goes by bytes: it tests the length in bytes and
the characters, cuts out each pair of digits at its offsets, and turns the pair into a number of
eight bits with a reader that is more generous than the notation, since it allows a `+` in front.
Two things could go wrong on the way, a slice that does not exist and a number that is refused.
After the test neither does (`Color.byOffsets_eq`), since the digits that pass it are of one byte
each and a `+` is none of them.

The main statement, `Color.parse_accepts_exactly`, holds all of this.
-/

namespace CommandConsole.Color

/-! ### Digits -/

/-- **A hexadecimal digit** of either case. -/
def isHexDigit (c : Char) : Bool :=
  ('0' ≤ c && c ≤ '9') || ('a' ≤ c && c ≤ 'f') || ('A' ≤ c && c ≤ 'F')

/-- **A text writes six hexadecimal digits**: it is made of them, or of a `#` and them. -/
structure Writes (text digits : Text) : Prop where
  text_eq : text = digits ∨ text = '#' :: digits
  length_digits : digits.length = 6
  are_digits : ∀ c ∈ digits, isHexDigit c = true

/-- The digits are the characters that have a value. -/
theorem isSome_hexValue?_iff {c : Char} : (hexValue? c).isSome = true ↔ isHexDigit c = true := by
  simp only [hexValue?, isHexDigit, Bool.or_eq_true, Bool.and_eq_true, decide_eq_true_eq]
  split
  · next hdecimal => exact iff_of_true rfl (.inl (.inl hdecimal))
  · next hdecimal =>
    split
    · next hsmall => exact iff_of_true rfl (.inl (.inr hsmall))
    · next hsmall =>
      split
      · next hcapital => exact iff_of_true rfl (.inr hcapital)
      · next hcapital =>
        exact iff_of_false Bool.false_ne_true
          (not_or.2 ⟨not_or.2 ⟨hdecimal, hsmall⟩, hcapital⟩)

theorem exists_hexValue? {c : Char} (h : isHexDigit c = true) : ∃ n, hexValue? c = some n :=
  Option.isSome_iff_exists.1 (isSome_hexValue?_iff.2 h)

theorem isHexDigit_of_hexValue? {c : Char} {n : Nat} (h : hexValue? c = some n) :
    isHexDigit c = true :=
  isSome_hexValue?_iff.1 (by rw [h, Option.isSome_some])

/-- All digits are ASCII characters. -/
theorem toNat_lt_of_isHexDigit {c : Char} (h : isHexDigit c = true) : c.toNat < 128 := by
  simp only [isHexDigit, Bool.or_eq_true, Bool.and_eq_true, decide_eq_true_eq] at h
  rcases h with (⟨-, h⟩ | ⟨-, h⟩) | ⟨-, h⟩
  · exact Nat.lt_of_le_of_lt h (by decide)
  · exact Nat.lt_of_le_of_lt h (by decide)
  · exact Nat.lt_of_le_of_lt h (by decide)

/-- **The value of a digit is written as the digit**, in upper case. -/
theorem hexDigit_of_hexValue? {c : Char} {n : Nat} (h : hexValue? c = some n) :
    n < 16 ∧ hexDigit n = c.toUpper := by
  have hall : ∀ k ∈ List.range 128, ∀ n ∈ hexValue? (Char.ofNat k),
      n < 16 ∧ hexDigit n = (Char.ofNat k).toUpper := by decide +kernel
  have hascii := toNat_lt_of_isHexDigit (isHexDigit_of_hexValue? h)
  have hc := hall c.toNat (List.mem_range.2 hascii) n
  rw [Char.ofNat_toNat] at hc
  exact hc h

/-- A digit takes up one byte. -/
theorem byteLength_of_isHexDigit {digits : Text} (h : ∀ c ∈ digits, isHexDigit c = true) :
    Text.byteLength digits = digits.length := by
  induction digits with
  | nil => rfl
  | cons c rest ih =>
    obtain ⟨hc, hrest⟩ := List.forall_mem_cons.1 h
    have hsize : c.utf8Size = 1 := by
      rw [Char.utf8Size_eq_one_iff]
      have hascii := toNat_lt_of_isHexDigit hc
      exact UInt32.le_iff_toNat_le.2 (Nat.le_of_lt_succ hascii)
    rw [Text.byteLength_cons, hsize, ih hrest, List.length_cons, Nat.add_comm]

/-! ### Pairs of digits -/

/-- **A pair of digits and the channel it writes**, which is written as these digits in upper
case. -/
structure IsPair (high low : Char) (n : UInt8) : Prop where
  high_digit : isHexDigit high = true
  low_digit : isHexDigit low = true
  channel_eq : channel? high low = some n
  text_eq : channelText n = [high.toUpper, low.toUpper]

theorem exists_isPair {high low : Char} (hhigh : isHexDigit high = true)
    (hlow : isHexDigit low = true) : ∃ n, IsPair high low n := by
  obtain ⟨h, hh⟩ := exists_hexValue? hhigh
  obtain ⟨l, hl⟩ := exists_hexValue? hlow
  obtain ⟨hh16, hhupper⟩ := hexDigit_of_hexValue? hh
  obtain ⟨hl16, hlupper⟩ := hexDigit_of_hexValue? hl
  refine ⟨UInt8.ofNat (16 * h + l), hhigh, hlow, by rw [channel?, hh, hl], ?_⟩
  have hvalue : (UInt8.ofNat (16 * h + l)).toNat = 16 * h + l :=
    UInt8.toNat_ofNat_of_lt' (by show 16 * h + l < 256; omega)
  rw [channelText, hvalue, show (16 * h + l) / 16 = h by omega,
    show (16 * h + l) % 16 = l by omega, hhupper, hlupper]

theorem isHexDigit_of_channel? {high low : Char} {n : UInt8} (h : channel? high low = some n) :
    isHexDigit high = true ∧ isHexDigit low = true := by
  unfold channel? at h
  split at h
  · next hhigh hlow => exact ⟨isHexDigit_of_hexValue? hhigh, isHexDigit_of_hexValue? hlow⟩
  · cases h

/-- **Six digits are three pairs.** -/
theorem exists_pairs {digits : Text} (hlength : digits.length = 6)
    (hdigits : ∀ c ∈ digits, isHexDigit c = true) :
    ∃ (r r' g g' b b' : Char) (red green blue : UInt8), digits = [r, r', g, g', b, b'] ∧
      IsPair r r' red ∧ IsPair g g' green ∧ IsPair b b' blue := by
  match digits, hlength with
  | [r, r', g, g', b, b'], _ =>
    simp only [List.forall_mem_cons] at hdigits
    obtain ⟨hr, hr', hg, hg', hb, hb', -⟩ := hdigits
    obtain ⟨red, hred⟩ := exists_isPair hr hr'
    obtain ⟨green, hgreen⟩ := exists_isPair hg hg'
    obtain ⟨blue, hblue⟩ := exists_isPair hb hb'
    exact ⟨r, r', g, g', b, b', red, green, blue, rfl, hred, hgreen, hblue⟩

/-! ### Six digits -/

/-- **Six digits write a colour**, which is written as these digits in upper case. -/
theorem exists_ofDigits? {digits : Text} (hlength : digits.length = 6)
    (hdigits : ∀ c ∈ digits, isHexDigit c = true) :
    ∃ c, ofDigits? digits = some c ∧ c.toText = '#' :: digits.map Char.toUpper := by
  obtain ⟨r, r', g, g', b, b', red, green, blue, rfl, hred, hgreen, hblue⟩ :=
    exists_pairs hlength hdigits
  refine ⟨⟨red, green, blue⟩, ?_, ?_⟩
  · rw [ofDigits?, hred.channel_eq, hgreen.channel_eq, hblue.channel_eq]
  · rw [toText, hred.text_eq, hgreen.text_eq, hblue.text_eq]
    rfl

/-- Nothing else writes a colour. -/
theorem isHexDigit_of_ofDigits? {digits : Text} {c : Color} (h : ofDigits? digits = some c) :
    digits.length = 6 ∧ ∀ d ∈ digits, isHexDigit d = true := by
  unfold ofDigits? at h
  split at h
  · split at h
    · next hred hgreen hblue =>
      obtain ⟨hr, hr'⟩ := isHexDigit_of_channel? hred
      obtain ⟨hg, hg'⟩ := isHexDigit_of_channel? hgreen
      obtain ⟨hb, hb'⟩ := isHexDigit_of_channel? hblue
      refine ⟨rfl, ?_⟩
      simp only [List.forall_mem_cons]
      exact ⟨hr, hr', hg, hg', hb, hb', List.forall_mem_nil _⟩
    · cases h
  · cases h

/-! ### With and without a `#` -/

theorem eq_withoutHash_or (text : Text) :
    text = withoutHash text ∨ text = '#' :: withoutHash text := by
  unfold withoutHash
  split
  · exact .inr rfl
  · exact .inl rfl

/-- The digits of a text are what is left without a `#`, which is no digit. -/
theorem Writes.withoutHash_eq {text digits : Text} (h : Writes text digits) :
    withoutHash text = digits := by
  rcases h.text_eq with rfl | rfl
  · rcases eq_withoutHash_or text with heq | heq
    · exact heq.symm
    · have hhash := h.are_digits '#' (by rw [heq]; exact List.mem_cons_self)
      exact absurd hhash (by decide)
  · rfl

/-- **Whether a text writes digits** is seen without its `#`. -/
theorem exists_writes_iff {text : Text} :
    (∃ digits, Writes text digits) ↔
      (withoutHash text).length = 6 ∧ ∀ c ∈ withoutHash text, isHexDigit c = true := by
  constructor
  · rintro ⟨digits, h⟩
    rw [h.withoutHash_eq]
    exact ⟨h.length_digits, h.are_digits⟩
  · rintro ⟨hlength, hdigits⟩
    exact ⟨withoutHash text, eq_withoutHash_or text, hlength, hdigits⟩

/-! ### Reading and writing -/

theorem exists_parse_of_writes {text digits : Text} (h : Writes text digits) :
    ∃ c, parse text = .ok c ∧ c.toText = '#' :: digits.map Char.toUpper := by
  obtain ⟨c, hread, htext⟩ := exists_ofDigits? h.length_digits h.are_digits
  exact ⟨c, by rw [parse, h.withoutHash_eq, hread], htext⟩

theorem exists_writes_of_parse {text : Text} {c : Color} (h : parse text = .ok c) :
    ∃ digits, Writes text digits := by
  rw [exists_writes_iff]
  unfold parse at h
  split at h
  · next hread => exact isHexDigit_of_ofDigits? hread
  · cases h

/-- **What is read is written with the same digits**, in upper case. -/
theorem toText_of_parse {text digits : Text} {c : Color} (h : parse text = .ok c)
    (hwrites : Writes text digits) : c.toText = '#' :: digits.map Char.toUpper := by
  obtain ⟨c', hread, htext⟩ := exists_parse_of_writes hwrites
  rw [hread] at h
  rwa [← Except.ok.inj h]

/-- **A text is read as the colour that is written with the same digits**, and no other text is
read. -/
theorem parse_eq_ok_iff {text : Text} {c : Color} :
    parse text = .ok c ↔
      ∃ digits, Writes text digits ∧ c.toText = '#' :: digits.map Char.toUpper := by
  constructor
  · intro h
    obtain ⟨digits, hwrites⟩ := exists_writes_of_parse h
    exact ⟨digits, hwrites, toText_of_parse h hwrites⟩
  · rintro ⟨digits, hwrites, htext⟩
    obtain ⟨c', hread, htext'⟩ := exists_parse_of_writes hwrites
    -- both colours are written in the same way, and what is written is read back
    have hback : (.ok c' : Except Invalid Color) = .ok c := by
      rw [← parse_toText c', ← parse_toText c, htext', htext]
    rw [hread, hback]

theorem eq_of_parse_eq_error {text : Text} {e : Invalid} (h : parse text = .error e) :
    e = ⟨text⟩ := by
  unfold parse at h
  split at h
  · cases h
  · exact (Except.error.inj h).symm

/-- **Every other text is refused**, with the text itself in the error. -/
theorem parse_eq_error_iff {text : Text} {e : Invalid} :
    parse text = .error e ↔ (¬ ∃ digits, Writes text digits) ∧ e = ⟨text⟩ := by
  constructor
  · intro h
    refine ⟨?_, eq_of_parse_eq_error h⟩
    rintro ⟨digits, hwrites⟩
    obtain ⟨c, hread, -⟩ := exists_parse_of_writes hwrites
    rw [hread] at h
    cases h
  · rintro ⟨hno, rfl⟩
    cases h : parse text with
    | ok c => exact absurd (exists_writes_of_parse h) hno
    | error e => rw [eq_of_parse_eq_error h]

/-- **A text in the spelling that colours are written in**: it is read, and its colour written. -/
def respelled (text : Text) : Except Invalid Text := (parse text).map toText

/-- Another time changes nothing. -/
theorem respelled_respelled (text : Text) : (respelled text).bind respelled = respelled text := by
  rw [respelled]
  cases parse text with
  | error e => rfl
  | ok c =>
    show (parse c.toText).map toText = .ok c.toText
    rw [parse_toText]
    rfl

/-! ### Reading by offsets -/

/-- What can be in the way of reading a colour by offsets. -/
inductive Obstacle where
  /-- The text does not pass the test. -/
  | form
  /-- There is no slice between the offsets of a pair of digits. -/
  | slice
  /-- A pair of digits is no number of eight bits. -/
  | number
  deriving DecidableEq, Repr

/-- A text without one leading `+`. -/
def withoutPlus : Text → Text
  | '+' :: rest => rest
  | text => text

/-- **The number of eight bits that a text writes** in base sixteen, in digits of either case and
with a `+` in front or without. -/
def byte? (text : Text) : Option UInt8 :=
  let digits := withoutPlus text
  if digits.isEmpty then none
  else (digits.foldlM (fun n c => (hexValue? c).map (16 * n + ·)) 0).bind fun n =>
    if n < UInt8.size then some (UInt8.ofNat n) else none

/-- The number that the two bytes from `start` on write. -/
def byteAt (digits : Text) (start : Nat) : Except Obstacle UInt8 :=
  match Text.slice? digits start (start + 2) with
  | none => .error .slice
  | some pair =>
    match byte? pair with
    | none => .error .number
    | some n => .ok n

/-- **Reads a colour by offsets.** -/
def byOffsets (text : Text) : Except Obstacle Color := do
  let digits := withoutHash text
  if Text.byteLength digits ≠ 6 || !digits.all isHexDigit then .error .form
  else
    let red ← byteAt digits 0
    let green ← byteAt digits 2
    let blue ← byteAt digits 4
    .ok ⟨red, green, blue⟩

/-- A `+` passes for a digit where only the number is looked at. -/
example : byte? "+f" = some 15 ∧ isHexDigit '+' = false := by decide

theorem withoutPlus_of_isHexDigit {c : Char} (h : isHexDigit c = true) (rest : Text) :
    withoutPlus (c :: rest) = c :: rest := by
  unfold withoutPlus
  split
  · next heq =>
    obtain ⟨rfl, -⟩ := List.cons.inj heq
    exact absurd h (by decide)
  · rfl

/-- **The number that a pair of digits writes** is its channel. -/
theorem IsPair.byte?_eq {high low : Char} {n : UInt8} (h : IsPair high low n) :
    byte? [high, low] = some n := by
  obtain ⟨v, hv⟩ := exists_hexValue? h.high_digit
  obtain ⟨u, hu⟩ := exists_hexValue? h.low_digit
  have hfold : [high, low].foldlM (fun n c => (hexValue? c).map (16 * n + ·)) 0 =
      some (16 * v + u) := by simp [hv, hu]
  -- two digits do not write more than eight bits
  have hfits : 16 * v + u < UInt8.size := by
    have hv16 := (hexDigit_of_hexValue? hv).1
    have hu16 := (hexDigit_of_hexValue? hu).1
    show 16 * v + u < 256
    omega
  rw [byte?, withoutPlus_of_isHexDigit h.high_digit, hfold, ← h.channel_eq, channel?, hv, hu]
  exact if_pos hfits

/-- **A pair of digits is found by its offset**, since the digits in front of it take up one byte
each. -/
theorem IsPair.byteAt_eq {high low : Char} {n : UInt8} (h : IsPair high low n) (front : Text)
    {back : Text} (hfront : ∀ c ∈ front, isHexDigit c = true) :
    byteAt (front ++ ([high, low] ++ back)) front.length = .ok n := by
  have hpair : ∀ c ∈ [high, low], isHexDigit c = true := by
    simp [h.high_digit, h.low_digit]
  have hslice : Text.slice? (front ++ ([high, low] ++ back)) front.length (front.length + 2) =
      some [high, low] :=
    Text.slice?_middle (byteLength_of_isHexDigit hfront).symm
      (by rw [byteLength_of_isHexDigit hpair]; rfl)
  rw [byteAt, hslice]
  simp only [h.byte?_eq]

/-- The test by bytes and characters asks for six digits. -/
theorem test_eq_false_iff {digits : Text} :
    (decide (Text.byteLength digits ≠ 6) || !digits.all isHexDigit) = false ↔
      digits.length = 6 ∧ ∀ c ∈ digits, isHexDigit c = true := by
  simp only [Bool.or_eq_false_iff, decide_eq_false_iff_not, Bool.not_eq_false', List.all_eq_true,
    ne_eq, Decidable.not_not]
  refine and_congr_left fun hdigits => ?_
  rw [byteLength_of_isHexDigit hdigits]

/-- **By offsets, the same colours are read**, and nothing is in the way but the test. -/
theorem byOffsets_eq (text : Text) : byOffsets text = (parse text).mapError fun _ => .form := by
  rw [byOffsets, parse]
  by_cases hform : (withoutHash text).length = 6 ∧ ∀ c ∈ withoutHash text, isHexDigit c = true
  · rw [if_neg (by rw [test_eq_false_iff.2 hform]; exact Bool.false_ne_true)]
    obtain ⟨hlength, hdigits⟩ := hform
    obtain ⟨r, r', g, g', b, b', red, green, blue, hsix, hred, hgreen, hblue⟩ :=
      exists_pairs hlength hdigits
    rw [hsix]
    -- each pair stands behind the pairs before it
    have hredAt : byteAt [r, r', g, g', b, b'] 0 = .ok red :=
      hred.byteAt_eq [] (List.forall_mem_nil _)
    have hgreenAt : byteAt [r, r', g, g', b, b'] 2 = .ok green :=
      hgreen.byteAt_eq [r, r'] (by simp [hred.high_digit, hred.low_digit])
    have hblueAt : byteAt [r, r', g, g', b, b'] 4 = .ok blue :=
      hblue.byteAt_eq [r, r', g, g']
        (by simp [hred.high_digit, hred.low_digit, hgreen.high_digit, hgreen.low_digit])
    rw [hredAt, hgreenAt, hblueAt, ofDigits?, hred.channel_eq, hgreen.channel_eq,
      hblue.channel_eq]
    rfl
  · rw [if_pos (by rw [← Bool.not_eq_false, test_eq_false_iff]; exact hform)]
    cases hread : ofDigits? (withoutHash text) with
    | none => rfl
    | some c => exact absurd (isHexDigit_of_ofDigits? hread) hform

/-! ### What is read -/

/-- **Exactly the texts that write six digits are read**, with or without a `#` and in either case,
and every other text is refused with the text in the error. A colour that is read is written with
the same digits in upper case. So what is written is read back, writing what was read settles the
spelling, and two texts are read as one colour exactly if their digits differ in case at most. To
read by offsets comes to the same, with no slice missing and no number refused. -/
theorem parse_accepts_exactly (text : Text) :
    ((∃ c, parse text = .ok c) ↔ ∃ digits, Writes text digits) ∧
    (∀ e, parse text = .error e ↔ (¬ ∃ digits, Writes text digits) ∧ e = ⟨text⟩) ∧
    (∀ c digits, parse text = .ok c → Writes text digits →
      c.toText = '#' :: digits.map Char.toUpper) ∧
    (∀ c, parse c.toText = .ok c) ∧
    (respelled text).bind respelled = respelled text ∧
    (∀ text' digits digits', Writes text digits → Writes text' digits' →
      (parse text = parse text' ↔ digits.map Char.toUpper = digits'.map Char.toUpper)) ∧
    byOffsets text = (parse text).mapError fun _ => .form := by
  refine ⟨⟨fun ⟨c, h⟩ => exists_writes_of_parse h, ?_⟩, fun _ => parse_eq_error_iff,
    fun _ _ => toText_of_parse, parse_toText, respelled_respelled text, ?_, byOffsets_eq text⟩
  · rintro ⟨digits, hwrites⟩
    obtain ⟨c, hread, -⟩ := exists_parse_of_writes hwrites
    exact ⟨c, hread⟩
  · intro text' digits digits' hwrites hwrites'
    obtain ⟨c, hread, htext⟩ := exists_parse_of_writes hwrites
    constructor
    · intro heq
      have htext' := toText_of_parse (heq ▸ hread) hwrites'
      exact (List.cons.inj (htext.symm.trans htext')).2
    · intro heq
      rw [hread, eq_comm, parse_eq_ok_iff]
      exact ⟨digits', hwrites', by rw [htext, heq]⟩

/-- The same six digits with a `#` and without, in different case. -/
theorem parse_accepts_exactly_mixedCase :
    Writes "#0aBcDe" "0aBcDe" ∧ Writes "0AbCdE" "0AbCdE" ∧ (∃ c, parse "#0aBcDe" = .ok c) ∧
      parse "#0aBcDe" = parse "0AbCdE" := by
  have hwrites : Writes "#0aBcDe" "0aBcDe" := ⟨.inr rfl, rfl, List.all_eq_true.1 rfl⟩
  have hwrites' : Writes "0AbCdE" "0AbCdE" := ⟨.inl rfl, rfl, List.all_eq_true.1 rfl⟩
  obtain ⟨hread, -, -, -, -, hsame, -⟩ := parse_accepts_exactly "#0aBcDe"
  exact ⟨hwrites, hwrites', hread.2 ⟨_, hwrites⟩, (hsame _ _ _ hwrites hwrites').2 (by decide)⟩

end CommandConsole.Color
