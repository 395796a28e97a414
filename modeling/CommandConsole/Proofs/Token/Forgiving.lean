import CommandConsole.Proofs.Token.Reads

/-!
# What the forgiving lexer reads

The forgiving lexer reads what the strict one reads, and takes a quote that stays open for one more
token. So every line is a row of gaps and tokens, and the two rules of `Token.ReadsForgiving` are
all there is: only blanks are left, or there is a gap with a token behind it.

What may stand for a token now depends on what follows it (`Token.Kind.Leads`). A word, a quoted
string or a separator is spelled and ended as ever. An unterminated string is a quote and the whole
rest of the line, which leaves it open.

* `Token.readsForgiving_tokenizeLossy` — the forgiving lexer follows these rules;
* `Token.Kind.Leads.not_endsWord_head` — a token other than a separator starts with a character that
  could not end a word.
-/

namespace CommandConsole.Token

/-- **What is written for a token in front of `rest`**, an unterminated string included. -/
def Kind.Leads : Kind → Text → Text → Prop
  | unterminated q, source, rest => source = '"' :: q ∧ LeavesOpen q ∧ rest = []
  | kind, source, rest => kind.IsSpelled source ∧ kind.IsEndedBy rest

theorem Kind.leads_of_isSpelled {kind : Kind} {source rest : Text}
    (hspelled : kind.IsSpelled source) (hended : kind.IsEndedBy rest) : kind.Leads source rest := by
  cases kind with
  | unterminated q => exact hspelled.elim
  | _ => exact ⟨hspelled, hended⟩

/-- A character that ends a word is no quote. -/
theorem not_endsWord_quote : ¬ EndsWord '"' := by
  simp only [EndsWord]
  decide

/-- **A token that is no separator starts in the middle of things**: its first character could not
have ended a word. -/
theorem Kind.Leads.not_endsWord_head {kind : Kind} {source rest : Text}
    (h : kind.Leads source rest) (hsep : kind.isSeparator = false) :
    ∃ c tail, source = c :: tail ∧ ¬ EndsWord c := by
  cases kind with
  | word w =>
    obtain ⟨⟨rfl, hne, -, hw⟩, -⟩ := h
    obtain ⟨c, tail, rfl⟩ := List.exists_cons_of_ne_nil hne
    exact ⟨c, tail, rfl, hw c List.mem_cons_self⟩
  | quoted q =>
    obtain ⟨⟨rfl, -⟩, -⟩ := h
    exact ⟨'"', _, rfl, not_endsWord_quote⟩
  | unterminated q =>
    obtain ⟨rfl, -, -⟩ := h
    exact ⟨'"', q, rfl, not_endsWord_quote⟩
  | separator which => cases hsep

/-- At least one character is written for a token. -/
theorem Kind.Leads.ne_nil {kind : Kind} {source rest : Text} (h : kind.Leads source rest) :
    source ≠ [] := by
  cases kind with
  | unterminated q =>
    obtain ⟨rfl, -, -⟩ := h
    exact List.cons_ne_nil _ _
  | _ => exact h.1.ne_nil

/-! ### The rules -/

/-- **The rules of the forgiving lexer.** `ReadsForgiving pos text tokens`: the text that starts at
byte `pos` of a line is read as these tokens. -/
inductive ReadsForgiving : Nat → Text → List Token → Prop where
  /-- Nothing but blanks is left. -/
  | blank {pos : Nat} {text : Text} (hblank : Text.isAllBlank text = true) :
      ReadsForgiving pos text []
  /-- A token, and what is read behind it. -/
  | token {pos start stop : Nat} {gap source rest : Text} {kind : Kind} {tokens : List Token}
      (hgap : Text.isAllBlank gap = true) (hleads : kind.Leads source rest)
      (hstart : start = pos + Text.byteLength gap)
      (hstop : stop = start + Text.byteLength source) (hrest : ReadsForgiving stop rest tokens) :
      ReadsForgiving pos (gap ++ (source ++ rest)) (⟨kind, ⟨start, stop⟩⟩ :: tokens)

/-- All tokens read, with an open quote as the last of them. -/
def Lexed.all (l : Lexed) : List Token :=
  match l.openQuote? with
  | none => l.tokens
  | some quote => l.tokens ++ [⟨.unterminated quote.text, quote.span⟩]

theorem Lexed.all_cons (t : Token) (l : Lexed) : (l.cons t).all = t :: l.all := by
  obtain ⟨tokens, _ | quote⟩ := l <;> rfl

theorem tokenizeLossy_eq_all (line : Text) : tokenizeLossy line = (lex line).all := by
  rw [tokenizeLossy, Lexed.all]
  rcases lex line with ⟨tokens, _ | quote⟩ <;> rfl

/-- What is read by the rules of the lexer is read by the forgiving ones, open quote and all. -/
theorem Reads.readsForgiving {pos : Nat} {text : Text} {lexed : Lexed} (h : Reads pos text lexed) :
    ReadsForgiving pos text lexed.all := by
  induction h with
  | blank hblank => exact .blank hblank
  | @openQuote pos start stop gap rest hgap hopen hstart hstop =>
    -- the open quote is a token with nothing behind it
    have hleads : (Kind.unterminated rest).Leads ('"' :: rest) [] := ⟨rfl, hopen, rfl⟩
    have hend : stop = start + Text.byteLength ('"' :: rest) := by
      rw [hstop, Text.byteLength_cons, show ('"').utf8Size = 1 from rfl, Nat.add_assoc]
    have htoken := ReadsForgiving.token hgap hleads hstart hend (.blank rfl)
    rwa [List.append_nil] at htoken
  | token hgap hspelled hended hstart hstop _ ih =>
    rw [Lexed.all_cons]
    exact .token hgap (Kind.leads_of_isSpelled hspelled hended) hstart hstop ih

/-- **The forgiving lexer follows the rules**, on every line. -/
theorem readsForgiving_tokenizeLossy (line : Text) :
    ReadsForgiving 0 line (tokenizeLossy line) := by
  rw [tokenizeLossy_eq_all]
  exact (reads_lexFrom 0 line).readsForgiving

end CommandConsole.Token
