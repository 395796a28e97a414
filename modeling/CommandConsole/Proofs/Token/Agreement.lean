import CommandConsole.Proofs.Token.LastToken

/-!
# How far the two lexers agree

A line that is still being typed is read by the forgiving lexer, and the line that is run by the
strict one. They may differ in one token only. Where the strict lexer fails there is a quote that
nothing closes; the line in front of that quote can be read by either, with the same tokens, and the
forgiving lexer makes one more token of all that is left.

Nothing is lost on the way: `Token.gaps` are the texts between the tokens, by the offsets at which
the tokens stand, and woven with the sources of the tokens they make up the line again. The main
statement, `Token.tokenizeLossy_agrees`, says all of this about every line.
-/

namespace CommandConsole.Token

/-- The text in front of each token and the one behind the last, from byte `cursor` of the line on.
-/
def gapsFrom (line : Text) (cursor : Nat) : List Token → List Text
  | [] => [Text.slice line cursor (Text.byteLength line)]
  | t :: rest => Text.slice line cursor t.span.start :: gapsFrom line t.span.stop rest

/-- **The gaps of a line** that some tokens leave. -/
def gaps (line : Text) (tokens : List Token) : List Text := gapsFrom line 0 tokens

/-- The sources of some tokens: what is written in the line where they stand. -/
def sources (line : Text) (tokens : List Token) : List Text :=
  tokens.map fun t => t.span.slice line

/-- Gaps and sources in turn, with one gap more than sources. -/
def weave : List Text → List Text → Text
  | gap :: gaps, source :: sources => gap ++ (source ++ weave gaps sources)
  | [gap], [] => gap
  | _, _ => []

/-- **Gaps are blank, and nothing is lost.** The line is `before ++ text`, and its first part has
been read. -/
theorem ReadsForgiving.weave_gapsFrom {pos : Nat} {text : Text} {tokens : List Token}
    (h : ReadsForgiving pos text tokens) {before : Text} (hpos : pos = Text.byteLength before) :
    weave (gapsFrom (before ++ text) pos tokens) (sources (before ++ text) tokens) = text ∧
      ∀ gap ∈ gapsFrom (before ++ text) pos tokens, Text.isAllBlank gap = true := by
  induction h generalizing before with
  | @blank pos text hblank =>
    have hslice : Text.slice (before ++ text) pos (Text.byteLength (before ++ text)) = text := by
      rw [Text.slice, hpos, Text.slice?_append]
      rfl
    rw [gapsFrom, hslice]
    refine ⟨rfl, fun gap hmem => ?_⟩
    rwa [List.mem_singleton.1 hmem]
  | @token pos start stop gap source rest kind tokens hgap _ hstart hstop _ ih =>
    -- with the gap and the token, more of the line has been read
    have hend : stop = Text.byteLength (before ++ gap ++ source) := by
      rw [hstop, hstart, hpos, Text.byteLength_append, Text.byteLength_append]
    have hline : before ++ (gap ++ (source ++ rest)) = before ++ gap ++ source ++ rest := by
      simp only [List.append_assoc]
    have hgapSlice : Text.slice (before ++ (gap ++ (source ++ rest))) pos start = gap :=
      Text.slice_middle hpos hstart
    have hsource : Text.slice (before ++ gap ++ source ++ rest) start stop = source := by
      rw [List.append_assoc (before ++ gap)]
      exact Text.slice_middle (by rw [hstart, hpos, Text.byteLength_append]) hstop
    obtain ⟨hweave, hblank⟩ := ih hend
    rw [gapsFrom, sources, List.map_cons, hgapSlice, hline, Span.slice, hsource]
    constructor
    · rw [weave]
      exact congrArg (fun text => gap ++ (source ++ text)) hweave
    · intro text hmem
      rcases List.mem_cons.1 hmem with rfl | hmem
      · exact hgap
      · exact hblank text hmem

/-- **A quote that stays open takes the rest of the line.** -/
theorem exists_front_of_tokenize_error {line : Text} {e : SyntaxError}
    (h : tokenize line = .error e) :
    ∃ front rest tokens, line = front ++ '"' :: rest ∧ LeavesOpen rest ∧
      Settled 0 front tokens ('"' :: rest) ∧
      e = .unclosedQuote ⟨Text.byteLength front, Text.byteLength line⟩ ∧
      tokenizeLossy line = tokens ++
        [⟨.unterminated rest, ⟨Text.byteLength front, Text.byteLength line⟩⟩] := by
  obtain ⟨tokens, quote, hlex, rfl⟩ := tokenize_eq_error_iff.1 h
  have hlossy : tokenizeLossy line = tokens ++ [⟨.unterminated quote.text, quote.span⟩] := by
    rw [tokenizeLossy, hlex]
  obtain ⟨front, source, rfl, ⟨rfl, hopen, -⟩, hspan, hsettled⟩ :=
    (readsForgiving_tokenizeLossy line).exists_settled_front hlossy (.inr ⟨quote.text, rfl⟩)
  rw [Nat.zero_add, Nat.zero_add] at hspan
  replace hspan : quote.span = _ := hspan
  rw [hspan] at hlossy ⊢
  exact ⟨front, quote.text, tokens, rfl, hopen, hsettled, rfl, hlossy⟩

/-- **The two lexers agree but for an open quote.** If the strict lexer reads the line, the
forgiving one reads the same tokens, and no open quote is among them. If it fails, then with an open
quote that takes the rest of the line; up to there the strict lexer reads the line, and the
forgiving one reads these tokens and the open quote behind them. In either case the tokens leave
only blanks, and gaps and tokens together are the line. -/
theorem tokenizeLossy_agrees (line : Text) :
    (match tokenize line with
      | .ok tokens => tokenizeLossy line = tokens ∧ ∀ t ∈ tokens, ∀ q, t.kind ≠ .unterminated q
      | .error e => ∃ front rest tokens, line = front ++ '"' :: rest ∧
        e = .unclosedQuote ⟨Text.byteLength front, Text.byteLength line⟩ ∧
        tokenize front = .ok tokens ∧
        Text.slice? line (Text.byteLength front + 1) (Text.byteLength line) = some rest ∧
        tokenizeLossy line = tokens ++
          [⟨.unterminated rest, ⟨Text.byteLength front, Text.byteLength line⟩⟩]) ∧
    weave (gaps line (tokenizeLossy line)) (sources line (tokenizeLossy line)) = line ∧
    ∀ gap ∈ gaps line (tokenizeLossy line), Text.isAllBlank gap = true := by
  have hstart : 0 = Text.byteLength [] := rfl
  refine ⟨?_, (readsForgiving_tokenizeLossy line).weave_gapsFrom hstart⟩
  cases htokenize : tokenize line with
  | ok tokens => exact ⟨tokenizeLossy_of_tokenize htokenize, ne_unterminated_of_tokenize htokenize⟩
  | error e =>
    obtain ⟨front, rest, tokens, rfl, -, hsettled, he, hlossy⟩ :=
      exists_front_of_tokenize_error htokenize
    refine ⟨front, rest, tokens, rfl, he, hsettled.tokenize_front, ?_, hlossy⟩
    -- the quote is one byte long, so what is behind it starts at the next byte
    have hslice := Text.slice?_append (front ++ ['"']) rest
    rwa [List.append_assoc, List.singleton_append, Text.byteLength_append] at hslice

end CommandConsole.Token
