import CommandConsole.Proofs.Token.Forgiving
import CommandConsole.Proofs.Token.Reading

/-!
# Reading two texts in a row

The lexer has no memory: behind a token it goes on as it would at the start of a line, only with
another byte offset (`Token.Reads.shift`). So two texts in a row read as the one and then the other,
if the first leaves no quote open and its last token could also end in front of the second
(`Token.Reads.append`). A text of which this can be said is **settled** in front of the other
(`Token.Settled`), and both lexers then start again behind it.

A separator ends every token. Hence `Token.tokenize_append_separator`: a line with a separator
in it reads as the part before, the separator, and the part behind it, with the same error if the
part behind it cannot be read.
-/

namespace CommandConsole.Token

/-! ### Further on in the line -/

/-- An open quote that stands `n` bytes further on. -/
def OpenQuote.shift (n : Nat) (q : OpenQuote) : OpenQuote := { q with span := q.span.shift n }

/-- All that is read, `n` bytes further on. -/
def Lexed.shift (n : Nat) (l : Lexed) : Lexed :=
  ⟨l.tokens.map (Token.shift n), l.openQuote?.map (OpenQuote.shift n)⟩

/-- **The rules do not look at the offset.** A text that stands further on reads as the same tokens,
further on. -/
theorem Reads.shift {pos : Nat} {text : Text} {lexed : Lexed} (h : Reads pos text lexed) (n : Nat) :
    Reads (pos + n) text (lexed.shift n) := by
  induction h with
  | blank hblank => exact .blank hblank
  | @openQuote pos start stop gap rest hgap hopen hstart hstop =>
    have hstart' : start + n = pos + n + Text.byteLength gap := by omega
    have hstop' : stop + n = start + n + 1 + Text.byteLength rest := by omega
    exact .openQuote hgap hopen hstart' hstop'
  | @token pos start stop gap source rest kind lexed hgap hspelled hended hstart hstop _ ih =>
    have hstart' : start + n = pos + n + Text.byteLength gap := by omega
    have hstop' : stop + n = start + n + Text.byteLength source := by omega
    exact .token hgap hspelled hended hstart' hstop' ih

theorem Lexed.all_shift (n : Nat) (l : Lexed) : (l.shift n).all = l.all.map (Token.shift n) := by
  obtain ⟨tokens, _ | quote⟩ := l
  · rfl
  · -- the open quote is the last token of both
    show List.map _ tokens ++ [_] = List.map _ (tokens ++ [_])
    rw [List.map_append]
    rfl

theorem Lexed.all_append (tokens : List Token) (l : Lexed) :
    (⟨tokens ++ l.tokens, l.openQuote?⟩ : Lexed).all = tokens ++ l.all := by
  obtain ⟨more, _ | quote⟩ := l
  · rfl
  · exact List.append_assoc tokens more _

/-- The forgiving lexer does not look at the offset either. -/
theorem readsForgiving_shift (n : Nat) (line : Text) :
    ReadsForgiving n line ((tokenizeLossy line).map (Token.shift n)) := by
  have h := ((reads_lexFrom 0 line).shift n).readsForgiving
  rwa [Nat.zero_add, Lexed.all_shift, ← lex, ← tokenizeLossy_eq_all] at h

/-! ### One text behind another -/

/-- What ends a token in front of a text that is not empty ends it whatever comes behind. -/
theorem Kind.IsEndedBy.append {kind : Kind} {rest : Text} (h : kind.IsEndedBy rest)
    (hne : rest ≠ []) (back : Text) : kind.IsEndedBy (rest ++ back) := by
  obtain ⟨c, rest, rfl⟩ := List.exists_cons_of_ne_nil hne
  cases kind with
  | word w => exact h
  | _ => trivial

theorem Reads.eq_of_nil {pos : Nat} {lexed : Lexed} (h : Reads pos [] lexed) :
    lexed = ⟨[], none⟩ := by
  rw [← h.lexFrom_eq, lexFrom]

/-- A gap in front changes nothing but the offset. -/
theorem Reads.gap_append {pos : Nat} {gap text : Text} {lexed : Lexed}
    (hgap : Text.isAllBlank gap = true) (h : Reads (pos + Text.byteLength gap) text lexed) :
    Reads pos (gap ++ text) lexed := by
  rw [← lexFrom_eq_iff, lexFrom_gap_append hgap]
  exact h.lexFrom_eq

/-- **Two texts in a row read as the one and then the other**, if no quote is left open and the last
token of the first, where it ends with the text, could end in front of the second. -/
theorem Reads.append {pos : Nat} {front back : Text} {lexed more : Lexed}
    (h : Reads pos front lexed) (hclosed : lexed.openQuote? = none)
    (hjoin : ∀ t, lexed.tokens.getLast? = some t → t.span.stop = pos + Text.byteLength front →
      t.kind.IsEndedBy back)
    (hback : Reads (pos + Text.byteLength front) back more) :
    Reads pos (front ++ back) ⟨lexed.tokens ++ more.tokens, more.openQuote?⟩ := by
  induction h with
  | blank hblank => exact hback.gap_append hblank
  | openQuote => cases hclosed
  | @token pos start stop gap source rest kind lexed hgap hspelled hended hstart hstop hrest ih =>
    have hend : stop + Text.byteLength rest =
        pos + Text.byteLength (gap ++ (source ++ rest)) := by
      simp only [Text.byteLength_append]
      omega
    have hended' : kind.IsEndedBy (rest ++ back) := by
      by_cases hne : rest = []
      · -- this token is the last one, and ends with the text
        subst hne
        obtain rfl := hrest.eq_of_nil
        exact hjoin _ rfl hend
      · exact hended.append hne back
    have hmore := ih hclosed (fun t ht hstopt => ?_) (by rwa [hend])
    · rw [List.append_assoc, List.append_assoc]
      exact .token hgap hspelled hended' hstart hstop hmore
    · -- a last token of the rest is the last token of all
      refine hjoin t ?_ (hstopt.trans hend)
      show (_ :: lexed.tokens).getLast? = some t
      rw [List.getLast?_cons, ht]
      rfl

/-! ### Settled texts -/

/-- **A text that starts at byte `pos` is settled in front of another**: it is read to its end, and
its last token, where it ends with the text, could end in front of the other as well. -/
structure Settled (pos : Nat) (front : Text) (tokens : List Token) (back : Text) : Prop where
  reads : Reads pos front ⟨tokens, none⟩
  ended : ∀ t, tokens.getLast? = some t → t.span.stop = pos + Text.byteLength front →
    t.kind.IsEndedBy back

namespace Settled

variable {pos : Nat} {front back : Text} {tokens : List Token}

/-- Blanks have no token that would have to end. -/
theorem of_isAllBlank {gap : Text} (h : Text.isAllBlank gap = true) (back : Text) :
    Settled pos gap [] back where
  reads := .blank h
  ended := nofun

/-- What settles a text in front of something settles it in front of more. -/
theorem append (h : Settled pos front tokens back) (hne : back ≠ []) (more : Text) :
    Settled pos front tokens (back ++ more) where
  reads := h.reads
  ended t hlast hstop := (h.ended t hlast hstop).append hne more

/-- **A line starts again behind a settled text.** -/
theorem lex_append (h : Settled 0 front tokens back) :
    lex (front ++ back) =
      ⟨tokens ++ (lex back).tokens.map (Token.shift (Text.byteLength front)),
        (lex back).openQuote?.map (OpenQuote.shift (Text.byteLength front))⟩ := by
  have hback := (reads_lexFrom 0 back).shift (Text.byteLength front)
  exact (h.reads.append rfl h.ended hback).lexFrom_eq

theorem tokenize_front (h : Settled 0 front tokens back) : tokenize front = .ok tokens :=
  tokenize_eq_ok_iff.2 h.reads.lexFrom_eq

/-- **The strict lexer** fails with the error of the second text, or not at all. -/
theorem tokenize_append (h : Settled 0 front tokens back) :
    tokenize (front ++ back) =
      match tokenize back with
      | .error e => .error (e.shift (Text.byteLength front))
      | .ok more => .ok (tokens ++ more.map (Token.shift (Text.byteLength front))) := by
  rw [tokenize, tokenize, h.lex_append]
  rcases lex back with ⟨more, _ | quote⟩ <;> rfl

/-- **The forgiving lexer** reads the one and then the other. -/
theorem tokenizeLossy_append (h : Settled 0 front tokens back) :
    tokenizeLossy (front ++ back) =
      tokens ++ (tokenizeLossy back).map (Token.shift (Text.byteLength front)) := by
  rw [tokenizeLossy_eq_all, tokenizeLossy_eq_all, h.lex_append, ← Lexed.all_shift,
    ← Lexed.all_append]
  rfl

end Settled

/-! ### Separators -/

/-- Every token can end in front of a separator. -/
theorem Kind.isEndedBy_separator (kind : Kind) (which : Separator) (back : Text) :
    kind.IsEndedBy (which.mark :: back) := by
  cases kind with
  | word w =>
    rintro c hc
    obtain rfl : which.mark = c := Option.some.inj hc
    exact endsWord_mark which
  | _ => trivial

/-- The token of a separator that stands at byte `pos`. -/
def separatorAt (which : Separator) (pos : Nat) : Token :=
  ⟨.separator which, ⟨pos, pos + 1⟩⟩

theorem byteLength_mark (which : Separator) : Text.byteLength [which.mark] = 1 := by
  cases which <;> rfl

/-- At a separator the lexer starts again behind it. -/
theorem reads_separator (which : Separator) (pos : Nat) (back : Text) :
    Reads pos (which.mark :: back)
      (.cons (separatorAt which pos) ((lex back).shift (pos + 1))) := by
  have hspelled : (Kind.separator which).IsSpelled [which.mark] := rfl
  have hstop : pos + 1 = pos + Text.byteLength [which.mark] := by rw [byteLength_mark]
  have hback := (reads_lexFrom 0 back).shift (pos + 1)
  rw [Nat.zero_add] at hback
  exact .token_front hspelled trivial hstop hback

/-- **A line with a separator in it** reads as the part before it, the separator, and the part
behind it, further on. -/
theorem lex_append_separator {front : Text} {tokens : List Token}
    (hfront : tokenize front = .ok tokens) (which : Separator) (back : Text) :
    lex (front ++ which.mark :: back) =
      ⟨tokens ++ separatorAt which (Text.byteLength front) ::
          (lex back).tokens.map (Token.shift (Text.byteLength front + 1)),
        (lex back).openQuote?.map (OpenQuote.shift (Text.byteLength front + 1))⟩ := by
  have hreads : Reads 0 front ⟨tokens, none⟩ := by
    rw [← lexFrom_eq_iff]
    exact tokenize_eq_ok_iff.1 hfront
  have hback := reads_separator which (Text.byteLength front) back
  rw [← Nat.zero_add (Text.byteLength front)] at hback
  have hline := hreads.append rfl (fun t _ _ => t.kind.isEndedBy_separator which back) hback
  rw [Nat.zero_add] at hline
  exact hline.lexFrom_eq

/-- **The same for the strict lexer**: it fails with the error of the part behind the separator, or
not at all. -/
theorem tokenize_append_separator {front : Text} {tokens : List Token}
    (hfront : tokenize front = .ok tokens) (which : Separator) (back : Text) :
    tokenize (front ++ which.mark :: back) =
      match tokenize back with
      | .error e => .error (e.shift (Text.byteLength front + 1))
      | .ok more => .ok (tokens ++ separatorAt which (Text.byteLength front) ::
          more.map (Token.shift (Text.byteLength front + 1))) := by
  rw [tokenize, tokenize, lex_append_separator hfront]
  rcases lex back with ⟨more, _ | quote⟩ <;> rfl

end CommandConsole.Token
