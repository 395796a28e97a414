import CommandConsole.Proofs.Argument.Roles
import CommandConsole.Proofs.Chain.Joining
import CommandConsole.Proofs.Snippet.Window
import CommandConsole.Proofs.Token.Agreement

/-!
# What a syntax error points at

An error carries the span of the offending text. This module says what stands there
(`Chain.PointsAt`):

* for an open quote, a quote mark and all the rest of the line, which no way of reading closes;
* for a malformed flag, an argument of a segment whose name is known, written bare or between
  quotes, whose text is malformed.

Either way the span is a part of the line that is not empty (`Text.IsPart`), so its start is the
start of a character, and a snippet of any width has its first caret under that character.
`Chain.error_points` is the statement.
-/

namespace CommandConsole

/-- **A span of some text of the line.** -/
structure Text.IsPart (line : Text) (span : Span) : Prop where
  start_lt_stop : span.start < span.stop
  stop_le : span.stop ≤ Text.byteLength line
  start_boundary : Text.IsBoundary line span.start
  stop_boundary : Text.IsBoundary line span.stop

theorem Text.isPart_middle {before middle : Text} (hne : middle ≠ []) (after : Text) :
    Text.IsPart (before ++ (middle ++ after))
      ⟨Text.byteLength before, Text.byteLength before + Text.byteLength middle⟩ := by
  have hpos := Text.byteLength_pos hne
  refine ⟨?_, ?_, ⟨before, middle ++ after, rfl, rfl⟩, ⟨before ++ middle, after, by simp, ?_⟩⟩
  · show Text.byteLength before < Text.byteLength before + Text.byteLength middle
    omega
  · show Text.byteLength before + Text.byteLength middle ≤ _
    simp only [Text.byteLength_append]
    omega
  · exact Text.byteLength_append before middle

namespace Chain

variable {κ : Type} {lookup : Lookup κ} {line : Text}

/-- **The offending text of an error.** -/
inductive PointsAt (lookup : Lookup κ) (line : Text) : SyntaxError → Prop where
  /-- A quote that takes the rest of the line along, which cannot be read up to a closing quote. -/
  | unclosedQuote {front rest : Text} (hline : line = front ++ '"' :: rest)
      (hopen : Token.LeavesOpen rest)
      (hnever : ¬ ∃ q after, Token.IsQuotable q ∧ rest = q ++ '"' :: after) :
      PointsAt lookup line (.unclosedQuote ⟨Text.byteLength front, Text.byteLength line⟩)
  /-- `t` is an argument of the segment `s`, and `source` is how it is written. -/
  | malformedFlag {tokens : List Token} {s : Segment} {t : Token} {source : Text}
      (hline : Token.tokenize line = .ok tokens) (hs : s ∈ segments tokens)
      (hknown : (lookup s.name.text).isSome = true) (ht : t ∈ s.rest)
      (hmalformed : Argument.IsMalformed t.text)
      (hslice : Text.slice? line t.span.start t.span.stop = some source)
      (hsource : source = t.text ∨ source = '"' :: (t.text ++ ['"'])) :
      PointsAt lookup line (.malformedFlag t.text t.span)

/-- A text that leaves a quote open has no way to be read up to a closing one. -/
theorem not_exists_isQuotable {rest : Text} (h : Token.LeavesOpen rest) :
    ¬ ∃ q after, Token.IsQuotable q ∧ rest = q ++ '"' :: after := by
  rintro ⟨q, after, hclosed⟩
  have hsome := Token.closeQuote_eq_some_iff.2 hclosed
  rw [Token.closeQuote_eq_none_iff.2 h] at hsome
  cases hsome

/-- An argument is written bare or between quotes. -/
theorem eq_text_of_isSpelled {t : Token} {source : Text} (h : t.kind.IsSpelled source)
    (hsep : t.kind.isSeparator = false) :
    source = t.text ∨ source = '"' :: (t.text ++ ['"']) := by
  obtain ⟨kind, span⟩ := t
  cases kind with
  | word w => exact .inl h.1
  | quoted q => exact .inr h.1
  | unterminated q => exact h.elim
  | separator which => cases hsep

/-- **A line that cannot be read** has an open quote in it. -/
theorem points_of_tokenize {e : SyntaxError} (h : Token.tokenize line = .error e) :
    Text.IsPart line e.span ∧ PointsAt lookup line e := by
  obtain ⟨front, rest, tokens, rfl, hopen, -, rfl, -⟩ := Token.exists_front_of_tokenize_error h
  have hpart : Text.IsPart (front ++ ('"' :: rest ++ [])) _ :=
    Text.isPart_middle (List.cons_ne_nil '"' rest) []
  rw [List.append_nil, ← Text.byteLength_append] at hpart
  exact ⟨hpart, .unclosedQuote rfl hopen (not_exists_isQuotable hopen)⟩

/-- **A line with a faulty segment** has a malformed argument in it. -/
theorem points_of_isFaulty {tokens : List Token} {s : Segment} {bad : Argument}
    (hline : Token.tokenize line = .ok tokens) (hs : s ∈ segments tokens)
    (hfaulty : s.IsFaulty lookup) (hbad : Argument.lastMalformed? s.arguments = some bad) :
    Text.IsPart line bad.span ∧ PointsAt lookup line (.malformedFlag bad.text bad.span) := by
  obtain ⟨before, after, hsplit, hmalformed, -⟩ := Argument.exists_append_of_lastMalformed? hbad
  have hmem : bad ∈ s.rest.map Argument.ofToken := by
    show bad ∈ s.arguments
    rw [hsplit]
    exact List.mem_append_right before List.mem_cons_self
  obtain ⟨t, ht, rfl⟩ := List.mem_map.1 hmem
  -- the argument is a token of the line, and no separator
  obtain ⟨hin, hsep⟩ := mem_of_mem_segments hs (List.mem_cons_of_mem s.name ht)
  have hreading := Token.isReading_iff_isReadingFrom.1 (Token.isReading_of_tokenize hline)
  obtain ⟨lead, source, tail, heq, hspan, hspelled, -⟩ := hreading.stands t hin
  rw [List.nil_append] at heq
  have hslice : Text.slice? line t.span.start t.span.stop = some source := by
    rw [heq, hspan]
    exact Text.slice?_middle rfl rfl
  constructor
  · show Text.IsPart line t.span
    rw [heq, hspan]
    exact Text.isPart_middle hspelled.ne_nil tail
  · exact .malformedFlag hline hs hfaulty.1 ht hmalformed hslice
      (eq_text_of_isSpelled hspelled hsep)

/-- **Every error points at the offending text.** Its span is a part of the line, and there stands
what the error is about. A snippet of any width shows the character that the span starts at, with
some of the line around it, and the first caret under that character: there are as many spaces
before the caret as there are characters shown before the character. -/
theorem error_points {e : SyntaxError} (h : parse lookup line = .error e) :
    Text.IsPart line e.span ∧ PointsAt lookup line e ∧
      ∀ width, ∃ hidden back c more rest n, line = hidden ++ back ++ c :: (more ++ rest) ∧
        Text.byteLength (hidden ++ back) = e.span.start ∧
        e.snippet line width = back ++ c :: more ++
          '\n' :: (List.replicate back.length ' ' ++ '^' :: List.replicate n '^') := by
  have hpoints : Text.IsPart line e.span ∧ PointsAt lookup line e := by
    rcases exists_cause_of_parse h with hline | ⟨tokens, s, bad, hline, hs, hfaulty, hbad, rfl⟩
    · exact points_of_tokenize hline
    · exact points_of_isFaulty hline hs hfaulty hbad
  obtain ⟨hpart, hpointsAt⟩ := hpoints
  refine ⟨hpart, hpointsAt, ?_⟩
  intro width
  obtain ⟨hidden, back, shown, rest, carets, hwindow, htext⟩ :=
    Snippet.exists_isWindow line e.span width
  have hlt := Nat.lt_of_lt_of_le hpart.start_lt_stop hpart.stop_le
  obtain ⟨hstart, ⟨c, more, rfl⟩, n, rfl⟩ := hwindow.exists_cons hpart.start_boundary hlt
  exact ⟨hidden, back, c, more, rest, n, hwindow.line_eq, hstart, htext⟩

/-- A line with a malformed flag between quotes, behind a segment that is dropped. -/
def wrongFlag : Text := "é; a \"?1\" y"

theorem error_points_wrongFlag :
    parse onlyA wrongFlag = .error (.malformedFlag "?1" ⟨6, 10⟩) ∧
      PointsAt onlyA wrongFlag (.malformedFlag "?1" ⟨6, 10⟩) := by
  have herror : (match parse onlyA wrongFlag with
      | .error e => some e
      | .ok _ => none) = some (.malformedFlag "?1" ⟨6, 10⟩) := by decide +kernel
  cases h : parse onlyA wrongFlag with
  | error e =>
    rw [h] at herror
    cases herror
    exact ⟨rfl, (error_points h).2.1⟩
  | ok chain =>
    rw [h] at herror
    cases herror

end Chain

end CommandConsole
