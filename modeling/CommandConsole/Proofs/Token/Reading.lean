import CommandConsole.Proofs.Text.Cut
import CommandConsole.Proofs.Token.Reads

/-!
# The one reading of a line

A **reading** of a line is a list of tokens whose spans cut the line as the grammar wants it
(`Token.IsReading`): the spans follow each other inside the line, each is a slice in which its
token is spelled and behind which the token ends, and outside of them all there are only blanks.
Nothing in this definition goes from left to right.

The main statement, `Token.tokenize_reads_exactly`: the strict lexer succeeds with some tokens
exactly if they are a reading of the line, and fails exactly if the line has none. So a line has at
most one reading, however its quotes and escapes are looked at.

The proof goes through the rules of `Token.Reads`, which do go from left to right. What connects
the two is the reading of a remainder, `Token.IsReadingFrom before text`: all conditions are about
the whole line `before ++ text`, but the tokens start behind `before` and only the characters of
`text` have to be covered. One token in front is taken off or put on by
`Token.IsReadingFrom.exists_front` and `Token.IsReadingFrom.cons`.
-/

namespace CommandConsole.Token

/-- **A reading of a line.** -/
structure IsReading (line : Text) (tokens : List Token) : Prop where
  /-- The spans are in order and do not overlap. -/
  ordered : tokens.Pairwise fun t u => t.span.stop ≤ u.span.start
  /-- The spans lie inside the line, on character boundaries. -/
  inside : ∀ t ∈ tokens, t.span.start ≤ t.span.stop ∧
    Text.IsBoundary line t.span.start ∧ Text.IsBoundary line t.span.stop
  /-- Every character outside all spans is a blank. -/
  blank_outside : ∀ before c after, line = before ++ c :: after →
    (∀ t ∈ tokens, t.span.contains (Text.byteLength before) = false) → isBlank c = true
  /-- Every token is spelled in the slice at its span. -/
  spelled : ∀ t ∈ tokens, t.kind.IsSpelled (t.span.slice line)
  /-- Every token ends at the end of its span. -/
  ended : ∀ t ∈ tokens, ∀ before after, line = before ++ after →
    Text.byteLength before = t.span.stop → t.kind.IsEndedBy after

/-! ### A token in its line -/

/-- **A token stands in a line**: the line is cut in three, with the token spelled in the middle. -/
def StandsIn (line : Text) (t : Token) : Prop :=
  ∃ before source after, line = before ++ (source ++ after) ∧
    t.span = ⟨Text.byteLength before, Text.byteLength before + Text.byteLength source⟩ ∧
    t.kind.IsSpelled source ∧ t.kind.IsEndedBy after

/-- Standing in a line is what a reading demands of each token. -/
theorem standsIn_iff {line : Text} {t : Token} :
    StandsIn line t ↔
      (t.span.start ≤ t.span.stop ∧ Text.IsBoundary line t.span.start ∧
        Text.IsBoundary line t.span.stop) ∧
      t.kind.IsSpelled (t.span.slice line) ∧
      ∀ before after, line = before ++ after → Text.byteLength before = t.span.stop →
        t.kind.IsEndedBy after := by
  constructor
  · rintro ⟨before, source, after, rfl, hspan, hspelled, hended⟩
    rw [hspan]
    refine ⟨⟨Nat.le_add_right _ _, ⟨before, _, rfl, rfl⟩, before ++ source, after, ?_, ?_⟩, ?_, ?_⟩
    · simp
    · simp
    · rw [Span.slice, Text.slice_middle rfl rfl]
      exact hspelled
    · intro front back h hlen
      rw [← List.append_assoc] at h
      obtain ⟨-, rfl⟩ := Text.append_inj_of_byteLength h (by simp [hlen])
      exact hended
  · rintro ⟨⟨hle, hstart, hstop⟩, hspelled, hended⟩
    obtain ⟨before, source, after, rfl, hbefore, hsource, hslice⟩ :=
      Text.exists_append_of_isBoundary hle hstart hstop
    rw [Span.slice, hslice] at hspelled
    refine ⟨before, source, after, rfl, ?_, hspelled, ?_⟩
    · rw [hbefore, ← hsource]
    · refine hended (before ++ source) after (by simp) ?_
      rw [Text.byteLength_append, hbefore, hsource]

/-- A token takes up at least one byte. -/
theorem StandsIn.start_lt_stop {line : Text} {t : Token} (h : StandsIn line t) :
    t.span.start < t.span.stop := by
  obtain ⟨before, source, after, rfl, hspan, hspelled, -⟩ := h
  have hpos := Text.byteLength_pos hspelled.ne_nil
  rw [hspan]
  show Text.byteLength before < Text.byteLength before + Text.byteLength source
  omega

/-! ### Readings of a remainder -/

/-- **A reading of what follows `before`** in the line `before ++ text`. -/
structure IsReadingFrom (before text : Text) (tokens : List Token) : Prop where
  ordered : tokens.Pairwise fun t u => t.span.stop ≤ u.span.start
  behind : ∀ t ∈ tokens, Text.byteLength before ≤ t.span.start
  stands : ∀ t ∈ tokens, StandsIn (before ++ text) t
  blank_outside : ∀ front c after, text = front ++ c :: after →
    (∀ t ∈ tokens, t.span.contains (Text.byteLength before + Text.byteLength front) = false) →
      isBlank c = true

/-- A reading of the line is a reading of what follows nothing. -/
theorem isReading_iff_isReadingFrom {line : Text} {tokens : List Token} :
    IsReading line tokens ↔ IsReadingFrom [] line tokens := by
  constructor
  · intro h
    refine ⟨h.ordered, fun _ _ => Nat.zero_le _, fun t ht => ?_, ?_⟩
    · exact standsIn_iff.2 ⟨h.inside t ht, h.spelled t ht, h.ended t ht⟩
    · simpa using h.blank_outside
  · intro h
    have hstands := fun t ht => standsIn_iff.1 (h.stands t ht)
    refine ⟨h.ordered, fun t ht => (hstands t ht).1, ?_, fun t ht => (hstands t ht).2.1,
      fun t ht => (hstands t ht).2.2⟩
    simpa using h.blank_outside

/-- A character of a gap in front of all tokens is outside of them. -/
theorem contains_eq_false_of_lt {tokens : List Token} {n m : Nat}
    (hbehind : ∀ t ∈ tokens, n ≤ t.span.start) (hlt : m < n) :
    ∀ t ∈ tokens, t.span.contains m = false := by
  intro t ht
  have hn := hbehind t ht
  simp only [Span.contains, Bool.and_eq_false_iff, decide_eq_false_iff_not]
  exact .inl (by omega)

/-- A character behind a token is outside of it. -/
theorem contains_eq_false_of_le {span : Span} {m : Nat} (hle : span.stop ≤ m) :
    span.contains m = false := by
  simp only [Span.contains, Bool.and_eq_false_iff, decide_eq_false_iff_not]
  exact .inr (by omega)

/-- **A token is put in front** of a reading, behind a gap. -/
theorem IsReadingFrom.cons {before gap source rest : Text} {kind : Kind} {start stop : Nat}
    {tokens : List Token} (hgap : Text.isAllBlank gap = true) (hspelled : kind.IsSpelled source)
    (hended : kind.IsEndedBy rest)
    (hstart : start = Text.byteLength before + Text.byteLength gap)
    (hstop : stop = start + Text.byteLength source)
    (h : IsReadingFrom (before ++ gap ++ source) rest tokens) :
    IsReadingFrom before (gap ++ (source ++ rest)) (⟨kind, ⟨start, stop⟩⟩ :: tokens) := by
  have hend : Text.byteLength (before ++ gap ++ source) = stop := by
    rw [Text.byteLength_append, Text.byteLength_append, hstop, hstart]
  have hline : before ++ (gap ++ (source ++ rest)) = before ++ gap ++ source ++ rest := by
    simp only [List.append_assoc]
  refine ⟨List.pairwise_cons.2 ⟨fun u hu => ?_, h.ordered⟩, ?_, ?_, ?_⟩
  · rw [← hend]
    exact h.behind u hu
  · intro t ht
    rcases List.mem_cons.1 ht with rfl | ht
    · show Text.byteLength before ≤ start
      omega
    · refine Nat.le_trans ?_ (h.behind t ht)
      simp only [Text.byteLength_append]
      omega
  · intro t ht
    rcases List.mem_cons.1 ht with rfl | ht
    · refine ⟨before ++ gap, source, rest, by simp, ?_, hspelled, hended⟩
      rw [hstop, hstart, Text.byteLength_append]
    · rw [hline]
      exact h.stands t ht
  · -- the character is in the gap, in the token, or in the remainder
    intro front c after htext hout
    by_cases hlt : Text.byteLength front < Text.byteLength gap
    · obtain ⟨m, rfl, hm⟩ := Text.exists_append_of_byteLength_le htext.symm (Nat.le_of_lt hlt)
      cases m with
      | nil => simp at hlt
      | cons d m =>
        obtain ⟨rfl, -⟩ := List.cons.inj hm
        exact List.all_eq_true.1 hgap c (by simp)
    · by_cases hlt' : Text.byteLength front < Text.byteLength (gap ++ source)
      · have hin := hout _ List.mem_cons_self
        rw [Text.byteLength_append] at hlt'
        simp only [Span.contains, Bool.and_eq_false_iff, decide_eq_false_iff_not] at hin
        omega
      · rw [← List.append_assoc] at htext
        obtain ⟨m, rfl, rfl⟩ := Text.exists_append_of_byteLength_le htext (by omega)
        refine h.blank_outside m c after rfl fun t ht => ?_
        have hin := hout t (List.mem_cons_of_mem _ ht)
        rwa [Text.byteLength_append, ← Nat.add_assoc, Text.byteLength_append, ← Nat.add_assoc,
          ← Text.byteLength_append, ← Text.byteLength_append] at hin

/-- **A token is taken off the front** of a reading, with the gap before it. -/
theorem IsReadingFrom.exists_front {before text : Text} {t : Token} {tokens : List Token}
    (h : IsReadingFrom before text (t :: tokens)) :
    ∃ gap source rest, text = gap ++ (source ++ rest) ∧ Text.isAllBlank gap = true ∧
      t.kind.IsSpelled source ∧ t.kind.IsEndedBy rest ∧
      t.span.start = Text.byteLength before + Text.byteLength gap ∧
      t.span.stop = t.span.start + Text.byteLength source ∧
      IsReadingFrom (before ++ gap ++ source) rest tokens := by
  obtain ⟨front, source, rest, hline, hspan, hspelled, hended⟩ := h.stands t List.mem_cons_self
  have hbehind := h.behind t List.mem_cons_self
  rw [hspan] at hbehind
  obtain ⟨gap, rfl, rfl⟩ := Text.exists_append_of_byteLength_le hline hbehind
  have hstart : t.span.start = Text.byteLength before + Text.byteLength gap := by
    rw [hspan]
    exact Text.byteLength_append before gap
  have hstop : t.span.stop = t.span.start + Text.byteLength source := by
    rw [hspan]
  have hend : Text.byteLength (before ++ gap ++ source) = t.span.stop := by
    rw [hstop, hstart, Text.byteLength_append, Text.byteLength_append]
  obtain ⟨hordered, hrest⟩ := List.pairwise_cons.1 h.ordered
  refine ⟨gap, source, rest, rfl, ?_, hspelled, hended, hstart, hstop, hrest, ?_, ?_, ?_⟩
  · -- a character of the gap is in front of this token, and so of all others
    refine List.all_eq_true.2 fun c hc => ?_
    obtain ⟨u, v, rfl⟩ := List.append_of_mem hc
    refine h.blank_outside u c (v ++ (source ++ rest)) (by simp) ?_
    refine contains_eq_false_of_lt (n := t.span.start) ?_ ?_
    · intro w hw
      rcases List.mem_cons.1 hw with rfl | hw
      · exact Nat.le_refl _
      · have hle := hordered w hw
        omega
    · have hpos := c.utf8Size_pos
      rw [hstart, Text.byteLength_append, Text.byteLength_cons]
      omega
  · intro u hu
    rw [hend]
    exact hordered u hu
  · intro u hu
    have hstands := h.stands u (List.mem_cons_of_mem t hu)
    rwa [← List.append_assoc, ← List.append_assoc] at hstands
  · intro u c v huv hout
    refine h.blank_outside (gap ++ (source ++ u)) c v (by simp [huv]) fun w hw => ?_
    have hoffset : Text.byteLength before + Text.byteLength (gap ++ (source ++ u)) =
        Text.byteLength (before ++ gap ++ source) + Text.byteLength u := by
      simp only [Text.byteLength_append]
      omega
    rw [hoffset]
    rcases List.mem_cons.1 hw with rfl | hw
    · exact contains_eq_false_of_le (by omega)
    · exact hout w hw

/-! ### Readings and rules -/

/-- What the rules read to the end is a reading of the remainder. -/
theorem Reads.isReadingFrom {pos : Nat} {text : Text} {lexed : Lexed} (h : Reads pos text lexed)
    (hopen : lexed.openQuote? = none) {before : Text} (hpos : pos = Text.byteLength before) :
    IsReadingFrom before text lexed.tokens := by
  induction h generalizing before with
  | blank hblank =>
    refine ⟨.nil, fun _ ht => absurd ht List.not_mem_nil, fun _ ht => absurd ht List.not_mem_nil,
      fun front c after htext _ => ?_⟩
    rw [htext] at hblank
    exact List.all_eq_true.1 hblank c (by simp)
  | openQuote => cases hopen
  | token hgap hspelled hended hstart hstop _ ih =>
    rw [hpos] at hstart
    refine .cons hgap hspelled hended hstart hstop (ih hopen ?_)
    rw [hstop, hstart, Text.byteLength_append, Text.byteLength_append]

/-- A reading of the remainder is read by the rules, to the end. -/
theorem IsReadingFrom.reads {before text : Text} {tokens : List Token}
    (h : IsReadingFrom before text tokens) :
    Reads (Text.byteLength before) text ⟨tokens, none⟩ := by
  induction tokens generalizing before text with
  | nil =>
    refine .blank (List.all_eq_true.2 fun c hc => ?_)
    obtain ⟨u, v, rfl⟩ := List.append_of_mem hc
    exact h.blank_outside u c v rfl fun _ ht => absurd ht List.not_mem_nil
  | cons t tokens ih =>
    obtain ⟨gap, source, rest, rfl, hgap, hspelled, hended, hstart, hstop, hrest⟩ := h.exists_front
    have hreads := ih hrest
    rw [Text.byteLength_append, Text.byteLength_append, ← hstart, ← hstop] at hreads
    exact .token hgap hspelled hended hstart hstop hreads

/-- **The lexer reads a line to the end exactly if it has a reading**, and reads that one. -/
theorem lex_eq_iff_isReading {line : Text} {tokens : List Token} :
    lex line = ⟨tokens, none⟩ ↔ IsReading line tokens := by
  rw [isReading_iff_isReadingFrom, lex, lexFrom_eq_iff]
  exact ⟨fun h => h.isReadingFrom rfl rfl, IsReadingFrom.reads⟩

/-- The strict lexer succeeds when no quote is left open. -/
theorem tokenize_eq_ok_iff {line : Text} {tokens : List Token} :
    tokenize line = .ok tokens ↔ lex line = ⟨tokens, none⟩ := by
  unfold tokenize
  rcases lex line with ⟨found, _ | quote⟩ <;> simp

/-- A blank line has no tokens. -/
theorem tokenize_of_isAllBlank {line : Text} (h : Text.isAllBlank line = true) :
    tokenize line = .ok [] := by
  rw [tokenize, lex, lexFrom_of_isAllBlank h]

/-- It fails when there is one. -/
theorem tokenize_eq_error_iff {line : Text} {e : SyntaxError} :
    tokenize line = .error e ↔
      ∃ tokens quote, lex line = ⟨tokens, some quote⟩ ∧ e = .unclosedQuote quote.span := by
  unfold tokenize
  rcases lex line with ⟨found, _ | quote⟩
  · simp
  · constructor
    · intro h
      cases h
      exact ⟨found, quote, rfl, rfl⟩
    · rintro ⟨tokens, quote, hlex, rfl⟩
      cases hlex
      rfl

/-- What the strict lexer reads, the forgiving one reads too. -/
theorem tokenizeLossy_of_tokenize {line : Text} {tokens : List Token}
    (h : tokenize line = .ok tokens) : tokenizeLossy line = tokens := by
  rw [tokenizeLossy, tokenize_eq_ok_iff.1 h]

/-- What the strict lexer gives is a reading of the line. -/
theorem isReading_of_tokenize {line : Text} {tokens : List Token}
    (h : tokenize line = .ok tokens) : IsReading line tokens :=
  lex_eq_iff_isReading.1 (tokenize_eq_ok_iff.1 h)

/-- The strict lexer reads no open quote. -/
theorem ne_unterminated_of_tokenize {line : Text} {tokens : List Token}
    (h : tokenize line = .ok tokens) : ∀ t ∈ tokens, ∀ q, t.kind ≠ .unterminated q := by
  intro t ht q hq
  have hspelled := (isReading_of_tokenize h).spelled t ht
  rw [hq] at hspelled
  exact hspelled

/-- **Tokens in order**: each takes up some of the line, and later ones start behind it. -/
structure InOrder (tokens : List Token) : Prop where
  proper : ∀ t ∈ tokens, t.span.start < t.span.stop
  ordered : tokens.Pairwise fun t u => t.span.stop ≤ u.span.start

theorem InOrder.sublist {some all : List Token} (h : InOrder all) (hsub : some.Sublist all) :
    InOrder some :=
  ⟨fun t ht => h.proper t (hsub.subset ht), h.ordered.sublist hsub⟩

/-- Tokens in order that start at one place are one. -/
theorem InOrder.eq_of_start_eq {tokens : List Token} (h : InOrder tokens) {t u : Token}
    (ht : t ∈ tokens) (hu : u ∈ tokens) (hstart : t.span.start = u.span.start) : t = u := by
  induction tokens with
  | nil => exact absurd ht List.not_mem_nil
  | cons v rest ih =>
    have hfirst := (List.pairwise_cons.1 h.ordered).1
    have hproper := h.proper v List.mem_cons_self
    rcases List.mem_cons.1 ht with htv | htrest <;> rcases List.mem_cons.1 hu with huv | hurest
    · rw [htv, huv]
    · have hle := hfirst u hurest
      rw [htv] at hstart
      omega
    · have hle := hfirst t htrest
      rw [huv] at hstart
      omega
    · exact ih (h.sublist (List.sublist_cons_self v rest)) htrest hurest

/-- The tokens of a line are in order. -/
theorem inOrder_of_tokenize {line : Text} {tokens : List Token}
    (h : tokenize line = .ok tokens) : InOrder tokens := by
  have hreading := isReading_of_tokenize h
  refine ⟨fun t ht => ?_, hreading.ordered⟩
  exact ((isReading_iff_isReadingFrom.1 hreading).stands t ht).start_lt_stop

/-- **The strict lexer accepts exactly the lines that have a reading.** It gives some tokens
exactly if they are a reading of the line, which makes that reading the only one; and it fails
exactly if there is none. -/
theorem tokenize_reads_exactly (line : Text) :
    (∀ tokens, tokenize line = .ok tokens ↔ IsReading line tokens) ∧
      ((∃ e, tokenize line = .error e) ↔ ¬ ∃ tokens, IsReading line tokens) := by
  have hiff : ∀ tokens, tokenize line = .ok tokens ↔ IsReading line tokens := fun tokens =>
    tokenize_eq_ok_iff.trans lex_eq_iff_isReading
  refine ⟨hiff, ?_⟩
  cases htokens : tokenize line with
  | ok tokens =>
    have hreading := (hiff tokens).1 htokens
    constructor
    · rintro ⟨e, h⟩
      cases h
    · exact fun h => absurd ⟨tokens, hreading⟩ h
  | error e =>
    constructor
    · rintro - ⟨tokens, h⟩
      have hok := (hiff tokens).2 h
      rw [htokens] at hok
      cases hok
    · exact fun _ => ⟨e, rfl⟩

end CommandConsole.Token
