import CommandConsole.Proofs.Token.Agreement

/-!
# Where a line can be cut

If two texts are written in a row, the tokens of the second may begin inside the last token of the
first: `ab` and `cd` are two words, and `abcd` is one. A place where this cannot happen is a
**seam** (`Token.IsSeam`): the second text is empty, or starts with a character that ends words, or
the first does not end in a word. Only words go on. A quoted string ends with its quote whatever
comes, so another quote right behind it opens another string, whereas behind a word it is one more
character of the word.

At a seam the two texts read as the one and then the other, and the strict lexer fails where it
fails on the second. Conversely the tokens of the first all stay only at a seam
(`Token.isSeam_of_tokenize_append`).

Blanks around a line are cut off at seams, so trimming a line changes nothing but offsets. Only an
open quote needs a second look, because it takes the blanks behind it along: with blanks or without
them, it stays open (`Token.LeavesOpen.append_plain`). The main statement,
`Token.tokenize_at_seams`, holds both.
-/

namespace CommandConsole

/-! ### Blanks around a text -/

namespace Text

theorem exists_append_trimEnd (text : Text) :
    ∃ tail, text = trimEnd text ++ tail ∧ isAllBlank tail = true := by
  refine ⟨(text.reverse.takeWhile isBlank).reverse, ?_, ?_⟩
  · rw [trimEnd, ← List.reverse_append, List.takeWhile_append_dropWhile, List.reverse_reverse]
  · rw [isAllBlank, List.all_reverse, List.all_takeWhile]

/-- **A line is its trimmed text with blanks around it.** -/
theorem exists_append_trim (line : Text) :
    ∃ tail, line = line.takeWhile isBlank ++ (trim line ++ tail) ∧ isAllBlank tail = true := by
  obtain ⟨tail, htail, hblank⟩ := exists_append_trimEnd (trimStart line)
  refine ⟨tail, ?_, hblank⟩
  rw [trim, ← htail, trimStart, List.takeWhile_append_dropWhile]

end Text

namespace Token

/-! ### Seams -/

/-- **A seam** between a text that reads as `tokens` and the text behind it. -/
def IsSeam (front : Text) (tokens : List Token) (back : Text) : Prop :=
  back = [] ∨ (∃ c rest, back = c :: rest ∧ EndsWord c) ∨
    ¬ ∃ t w, tokens.getLast? = some t ∧ t.kind = .word w ∧ t.span.stop = Text.byteLength front

/-- At a seam every token ends that ends there. -/
theorem IsSeam.isEndedBy {front back : Text} {tokens : List Token} (h : IsSeam front tokens back)
    {t : Token} (hlast : tokens.getLast? = some t) (hstop : t.span.stop = Text.byteLength front) :
    t.kind.IsEndedBy back := by
  cases hkind : t.kind with
  | word w =>
    intro c hc
    rcases h with rfl | ⟨d, rest, rfl, hd⟩ | hno
    · cases hc
    · obtain rfl : d = c := Option.some.inj hc
      exact hd
    · exact absurd ⟨t, w, hlast, hkind, hstop⟩ hno
  | _ => trivial

theorem IsSeam.settled {front back : Text} {tokens : List Token} (h : IsSeam front tokens back)
    (hfront : tokenize front = .ok tokens) : Settled 0 front tokens back where
  reads := lexFrom_eq_iff.1 (tokenize_eq_ok_iff.1 hfront)
  ended t hlast hstop := by
    rw [Nat.zero_add] at hstop
    exact h.isEndedBy hlast hstop

/-- **Only at a seam do all tokens stay.** -/
theorem isSeam_of_tokenize_append {front back : Text} {tokens more : List Token}
    (h : tokenize (front ++ back) = .ok (tokens ++ more)) : IsSeam front tokens back := by
  cases back with
  | nil => exact .inl rfl
  | cons c back =>
    by_cases hc : EndsWord c
    · exact .inr (.inl ⟨c, back, rfl, hc⟩)
    · -- a word that ended at this place would have to end in front of `c`
      refine .inr (.inr ?_)
      rintro ⟨t, w, hlast, hkind, hstop⟩
      have hmem : t ∈ tokens ++ more := List.mem_append_left _ (List.mem_of_getLast? hlast)
      have hended := (isReading_of_tokenize h).ended t hmem front (c :: back) rfl hstop.symm
      rw [hkind] at hended
      exact hc (hended c rfl)

/-! ### Trimming -/

theorem endsWord_of_isAllBlank {tail : Text} (h : Text.isAllBlank tail = true) :
    tail = [] ∨ ∃ c rest, tail = c :: rest ∧ EndsWord c := by
  cases tail with
  | nil => exact .inl rfl
  | cons c rest =>
    rw [Text.isAllBlank, List.all_cons, Bool.and_eq_true] at h
    exact .inr ⟨c, rest, rfl, .inl h.1⟩

theorem tokenize_gap_append {gap : Text} (hgap : Text.isAllBlank gap = true) (text : Text) :
    tokenize (gap ++ text) =
      match tokenize text with
      | .error e => .error (e.shift (Text.byteLength gap))
      | .ok tokens => .ok (tokens.map (Token.shift (Text.byteLength gap))) := by
  -- blanks have no tokens, so they are settled in front of anything
  have hfront : Settled 0 gap [] text := .of_isAllBlank hgap text
  rw [hfront.tokenize_append]
  cases tokenize text <;> rfl

/-- Blanks behind an open quote belong to it, and it stays open. -/
theorem exists_error_append_gap {gap text : Text} {e : SyntaxError}
    (hgap : Text.isAllBlank gap = true) (h : tokenize text = .error e) :
    ∃ e', tokenize (text ++ gap) = .error e' := by
  obtain ⟨front, rest, tokens, rfl, hopen, hsettled, -, -⟩ := exists_front_of_tokenize_error h
  have hplain : ∀ c ∈ gap, c ≠ '"' ∧ c ≠ '\\' := by
    intro c hc
    have hblank : isBlank c = true := List.all_eq_true.1 hgap c hc
    constructor
    · rintro rfl
      exact absurd hblank (by decide)
    · rintro rfl
      exact absurd hblank (by decide)
  -- so the open quote takes the new blanks along, and what is in front of it does not change
  have hquote : lex ('"' :: (rest ++ gap)) = _ := lexFrom_openQuote (hopen.append_plain hplain) 0
  have hmore : Settled 0 front tokens ('"' :: (rest ++ gap)) := by
    have h := hsettled.append (List.cons_ne_nil _ _) gap
    rwa [List.cons_append] at h
  rw [List.append_assoc, List.cons_append, hmore.tokenize_append, tokenize, hquote]
  exact ⟨_, rfl⟩

/-- **Blanks at the end of a line** change no token. -/
theorem tokenize_append_gap {gap : Text} (hgap : Text.isAllBlank gap = true) (text : Text)
    (tokens : List Token) :
    tokenize (text ++ gap) = .ok tokens ↔ tokenize text = .ok tokens := by
  cases htext : tokenize text with
  | ok found =>
    have hseam : IsSeam text found gap := (endsWord_of_isAllBlank hgap).imp_right .inl
    rw [(hseam.settled htext).tokenize_append, tokenize_of_isAllBlank hgap]
    simp
  | error e =>
    obtain ⟨e', he⟩ := exists_error_append_gap hgap htext
    rw [he]
    simp

/-- **Texts can be joined at seams, and trimmed.** A line has tokens exactly if its trimmed text
has, and they are the same but for the blanks cut off at the front. -/
theorem tokenize_at_seams :
    (∀ front back tokens, tokenize front = .ok tokens → IsSeam front tokens back →
      tokenize (front ++ back) =
        match tokenize back with
        | .error e => .error (e.shift (Text.byteLength front))
        | .ok more => .ok (tokens ++ more.map (Token.shift (Text.byteLength front)))) ∧
    ∀ line tokens, tokenize line = .ok tokens ↔
      ∃ trimmed, tokenize (Text.trim line) = .ok trimmed ∧
        tokens = trimmed.map (Token.shift (Text.byteLength (line.takeWhile isBlank))) := by
  constructor
  · intro front back tokens hfront hseam
    exact (hseam.settled hfront).tokenize_append
  · intro line tokens
    obtain ⟨tail, hline, htail⟩ := Text.exists_append_trim line
    have hlead : Text.isAllBlank (line.takeWhile isBlank) = true := List.all_takeWhile
    -- first the blanks at the end go, then those at the front
    have hend := tokenize_append_gap htail (line.takeWhile isBlank ++ Text.trim line) tokens
    rw [List.append_assoc, ← hline] at hend
    rw [hend, tokenize_gap_append hlead]
    cases tokenize (Text.trim line) with
    | ok trimmed => simp [eq_comm]
    | error e => simp

/-- A quote may follow a quote at once: the strings are two, and the second one stays open. -/
theorem tokenize_at_seams_quotes :
    ∃ tokens, tokenize "é \"x\"" = .ok tokens ∧ IsSeam "é \"x\"" tokens "\"y" ∧
      tokenize ("é \"x\"" ++ "\"y") = .error (.unclosedQuote ⟨6, 8⟩) := by
  have hfront : tokenize "é \"x\"" = .ok [⟨.word "é", ⟨0, 2⟩⟩, ⟨.quoted "x", ⟨3, 6⟩⟩] :=
    tokenize_eq_ok_iff.2 (by decide +kernel)
  have hseam : IsSeam "é \"x\"" [⟨.word "é", ⟨0, 2⟩⟩, ⟨.quoted "x", ⟨3, 6⟩⟩] "\"y" := by
    refine .inr (.inr ?_)
    rintro ⟨t, w, hlast, hkind, -⟩
    obtain rfl : ⟨.quoted "x", ⟨3, 6⟩⟩ = t := Option.some.inj hlast
    cases hkind
  have hback : tokenize "\"y" = .error (.unclosedQuote ⟨0, 2⟩) :=
    tokenize_eq_error_iff.2 ⟨[], ⟨⟨0, 2⟩, "y"⟩, by decide +kernel, rfl⟩
  have hjoined := tokenize_at_seams.1 _ _ _ hfront hseam
  rw [hback] at hjoined
  exact ⟨_, hfront, hseam, hjoined⟩

end Token

end CommandConsole
