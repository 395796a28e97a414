import CommandConsole.Proofs.Token.LastToken

/-!
# Cutting tokens out of a line

Tokens that follow each other in a line can be cut out of it: from the start of the first of them to
the end of the last. The piece reads as these tokens and no others, at the offsets they have in the
piece (`Token.exists_excerpt`).

What stands in front of the piece is of no account, since the lexer has no memory. What stands
behind it is, for a word goes on as long as it can. But a cut only ever takes away characters behind
a token that has ended already, and where nothing follows every token may end.

The two cuts are made one after the other, each by induction on the rules of reading: in front of a
token (`Token.Reads.exists_behind`), and behind some tokens (`Token.Reads.exists_front`).
-/

namespace CommandConsole.Token

/-- **The cut in front of a token.** From where it starts, the text reads as this token and those
behind it. -/
theorem Reads.exists_behind {pos : Nat} {text : Text} {lexed : Lexed} (h : Reads pos text lexed)
    {front more : List Token} {t : Token} (htokens : lexed.tokens = front ++ t :: more) :
    ∃ before rest, text = before ++ rest ∧ pos + Text.byteLength before = t.span.start ∧
      Reads t.span.start rest ⟨t :: more, lexed.openQuote?⟩ := by
  induction h generalizing front with
  | blank => simp at htokens
  | openQuote => simp at htokens
  | @token pos start stop gap source rest kind lexed hgap hspelled hended hstart hstop hrest ih =>
    cases front with
    | nil =>
      -- this is the token, and the gap in front of it goes
      obtain ⟨rfl, rfl⟩ := List.cons.inj htokens
      exact ⟨gap, source ++ rest, rfl, hstart.symm,
        .token_front hspelled hended hstop hrest⟩
    | cons u front =>
      obtain ⟨-, hmore⟩ := List.cons.inj htokens
      obtain ⟨before, behind, rfl, hbefore, hreads⟩ := ih hmore
      refine ⟨gap ++ (source ++ before), behind, by simp, ?_, hreads⟩
      rw [← hbefore]
      simp only [Text.byteLength_append]
      omega

/-- **The cut behind some tokens.** Up to where the last of them ends, the text reads as these
tokens. -/
theorem Reads.exists_front {pos : Nat} {text : Text} {lexed : Lexed} (h : Reads pos text lexed)
    {t : Token} {rest more : List Token} (htokens : lexed.tokens = t :: (rest ++ more)) :
    ∃ source after, text = source ++ after ∧
      pos + Text.byteLength source = (rest.getLastD t).span.stop ∧
      Reads pos source ⟨t :: rest, none⟩ := by
  induction h generalizing t rest with
  | blank => simp at htokens
  | openQuote => simp at htokens
  | @token pos start stop gap source behind kind lexed hgap hspelled hended hstart hstop hbehind
      ih =>
    obtain ⟨rfl, hmore⟩ := List.cons.inj htokens
    cases rest with
    | nil =>
      -- nothing is left behind the token, so it may end there
      have hnil : kind.IsEndedBy ([] ++ behind) := hended
      refine ⟨gap ++ (source ++ []), behind, by simp, ?_, ?_⟩
      · show pos + Text.byteLength (gap ++ (source ++ [])) = stop
        simp only [Text.byteLength_append, Text.byteLength_nil]
        omega
      · exact .token hgap hspelled hnil.of_append hstart hstop (.blank rfl)
    | cons u rest =>
      obtain ⟨front, after, rfl, hfront, hreads⟩ := ih hmore
      refine ⟨gap ++ (source ++ front), after, by simp, ?_, ?_⟩
      · rw [List.getLastD_cons, ← hfront]
        simp only [Text.byteLength_append]
        omega
      · exact .token hgap hspelled hended.of_append hstart hstop hreads

/-- **Tokens in a row are cut out of their line**: the piece from the start of the first to the end
of the last reads as these tokens. -/
theorem exists_excerpt {line : Text} {front rest back : List Token} {t : Token}
    (h : tokenize line = .ok (front ++ t :: (rest ++ back))) :
    ∃ before source after excerpt, line = before ++ (source ++ after) ∧
      Text.byteLength before = t.span.start ∧
      Text.byteLength before + Text.byteLength source = (rest.getLastD t).span.stop ∧
      tokenize source = .ok excerpt ∧
      excerpt.map (Token.shift (Text.byteLength before)) = t :: rest := by
  have hline := lexFrom_eq_iff.1 (tokenize_eq_ok_iff.1 h)
  obtain ⟨before, behind, rfl, hbefore, hbehind⟩ := hline.exists_behind rfl
  obtain ⟨source, after, rfl, hsource, hreads⟩ := hbehind.exists_front rfl
  rw [Nat.zero_add] at hbefore
  -- at the start of a line the piece reads as it does here, only the offsets differ
  have hshift := (reads_lexFrom 0 source).shift t.span.start
  rw [Nat.zero_add] at hshift
  have heq : (lex source).shift t.span.start = ⟨t :: rest, none⟩ :=
    hshift.lexFrom_eq.symm.trans hreads.lexFrom_eq
  rw [← hbefore] at hsource heq
  obtain ⟨htokens, hopen⟩ := Lexed.mk.inj heq
  refine ⟨before, source, after, (lex source).tokens, rfl, hbefore, hsource, ?_, htokens⟩
  rw [tokenize_eq_ok_iff]
  have hclosed : (lex source).openQuote? = none := Option.map_eq_none_iff.1 hopen
  rw [← hclosed]

end CommandConsole.Token
