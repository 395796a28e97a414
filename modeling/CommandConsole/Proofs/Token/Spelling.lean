import CommandConsole.Token.Lexer

/-!
# How tokens are spelled

The written form of a token, said without the lexer:

* a word is spelled by itself: it is not empty, does not start with a quote, and has no character
  that would end it;
* a quoted string is spelled by its text between two quotes, and its text is **quotable**
  (`Token.IsQuotable`): a row of plain characters and of backslashes with the character they take
  along;
* a separator is spelled by its mark;
* an open quote has no spelling: it is no token of a line that is to be run.

A word goes on as long as it can, so what follows one has to end it (`Token.Kind.IsEndedBy`).

The two lemmas on `Token.closeQuote` tie quotable texts to the lexer: the closing quote is found
exactly behind a quotable text (`Token.closeQuote_eq_some_iff`), and is missing exactly where the
rest of the line is quotable but for a backslash at its end that has nothing to take along
(`Token.closeQuote_eq_none_iff`). A text has at most one of these shapes, which is why quoted
strings need no separator behind them.
-/

namespace CommandConsole.Token

/-- **A character that ends a word**: a blank or one of the two marks. -/
def EndsWord (c : Char) : Prop := isBlank c = true ∨ c = ';' ∨ c = '&'

/-- **A text that can stand between quotes**, item by item. -/
inductive IsQuotable : Text → Prop where
  | nil : IsQuotable []
  /-- A character that means nothing special. -/
  | plain {c : Char} {rest : Text} : c ≠ '"' → c ≠ '\\' → IsQuotable rest → IsQuotable (c :: rest)
  /-- A backslash and the character it takes along. -/
  | escape (c : Char) {rest : Text} : IsQuotable rest → IsQuotable ('\\' :: c :: rest)

/-- **A text that leaves the quote in front of it open**: it is quotable, or would be without the
lone backslash at its end. -/
def LeavesOpen (text : Text) : Prop :=
  IsQuotable text ∨ ∃ body, IsQuotable body ∧ text = body ++ ['\\']

/-- **The spelling of a token.** -/
def Kind.IsSpelled : Kind → Text → Prop
  | word w, source => source = w ∧ w ≠ [] ∧ w.head? ≠ some '"' ∧ ∀ c ∈ w, ¬ EndsWord c
  | quoted q, source => source = '"' :: (q ++ ['"']) ∧ IsQuotable q
  | separator which, source => source = [which.mark]
  | unterminated _, _ => False

/-- **What may follow a token.** A word is followed by the end of the line or by a character that
ends it; behind the other tokens anything may stand. -/
def Kind.IsEndedBy : Kind → Text → Prop
  | word _, rest => ∀ c, rest.head? = some c → EndsWord c
  | _, _ => True

theorem isWordChar_eq_true_iff {c : Char} : isWordChar c = true ↔ ¬ EndsWord c := by
  simp [isWordChar, EndsWord, and_assoc]

theorem isWordChar_eq_false_iff {c : Char} : isWordChar c = false ↔ EndsWord c := by
  rw [← Bool.not_eq_true, isWordChar_eq_true_iff, Classical.not_not]

/-- A mark ends every word in front of it. -/
theorem endsWord_mark (which : Separator) : EndsWord which.mark := by
  cases which with
  | always => exact .inr (.inl rfl)
  | onSuccess => exact .inr (.inr rfl)

/-- A spelling has at least one character. -/
theorem Kind.IsSpelled.ne_nil {kind : Kind} {source : Text} (h : kind.IsSpelled source) :
    source ≠ [] := by
  cases kind with
  | word w =>
    obtain ⟨rfl, hne, -⟩ := h
    exact hne
  | quoted q =>
    obtain ⟨rfl, -⟩ := h
    exact List.cons_ne_nil _ _
  | unterminated q => exact h.elim
  | separator which =>
    obtain rfl : source = _ := h
    exact List.cons_ne_nil _ _

/-! ### The closing quote -/

/-- **A quotable text is passed over whole**, whatever stands behind it. -/
theorem IsQuotable.closeQuote_append {q : Text} (h : IsQuotable q) (tail : Text) :
    closeQuote (q ++ tail) = (closeQuote tail).map fun found => (q ++ found.1, found.2) := by
  induction h with
  | nil => simp
  | plain hquote hescape _ ih =>
    rw [List.cons_append, closeQuote.eq_4 _ _ hquote (fun _ _ h _ => hescape h), ih,
      Option.map_map]
    rfl
  | escape c _ ih =>
    rw [List.cons_append, List.cons_append, closeQuote, ih, Option.map_map]
    rfl

/-- **The closing quote stands behind a quotable text**, and behind no other. -/
theorem closeQuote_eq_some_iff {rest q after : Text} :
    closeQuote rest = some (q, after) ↔ IsQuotable q ∧ rest = q ++ '"' :: after := by
  constructor
  · intro h
    refine ⟨?_, eq_of_closeQuote h⟩
    fun_induction closeQuote rest generalizing q with
    | case1 => simp at h
    | case2 rest =>
      obtain ⟨rfl, -⟩ : [] = q ∧ rest = after := by simpa using h
      exact .nil
    | case3 c rest ih =>
      obtain ⟨⟨t, a⟩, ht, heq⟩ := Option.map_eq_some_iff.1 h
      obtain ⟨rfl, rfl⟩ := Prod.mk.inj heq
      exact .escape c (ih ht)
    | case4 c rest hquote hescape ih =>
      obtain ⟨⟨t, a⟩, ht, heq⟩ := Option.map_eq_some_iff.1 h
      obtain ⟨rfl, rfl⟩ := Prod.mk.inj heq
      refine .plain hquote (fun hc => ?_) (ih ht)
      -- a backslash that takes nothing along is the last character, and no quote follows it
      cases rest with
      | nil => simp [closeQuote] at ht
      | cons d rest => exact hescape d rest hc rfl
  · rintro ⟨hq, rfl⟩
    rw [hq.closeQuote_append]
    simp [closeQuote]

/-- **No closing quote**: the text is quotable, but for a lone backslash at its end. -/
theorem closeQuote_eq_none_iff {rest : Text} : closeQuote rest = none ↔ LeavesOpen rest := by
  constructor
  · intro h
    fun_induction closeQuote rest with
    | case1 => exact .inl .nil
    | case2 => simp at h
    | case3 c rest ih =>
      rcases ih (Option.map_eq_none_iff.1 h) with hq | ⟨body, hq, rfl⟩
      · exact .inl (.escape c hq)
      · exact .inr ⟨'\\' :: c :: body, .escape c hq, rfl⟩
    | case4 c rest hquote hescape ih =>
      by_cases hc : c = '\\'
      · cases rest with
        | nil => exact .inr ⟨[], .nil, by rw [hc]; rfl⟩
        | cons d rest => exact (hescape d rest hc rfl).elim
      · rcases ih (Option.map_eq_none_iff.1 h) with hq | ⟨body, hq, rfl⟩
        · exact .inl (.plain hquote hc hq)
        · exact .inr ⟨c :: body, .plain hquote hc hq, rfl⟩
  · rintro (hq | ⟨body, hq, rfl⟩)
    · have h := hq.closeQuote_append []
      rwa [List.append_nil] at h
    · rw [hq.closeQuote_append]
      rfl

/-! ### Quotable texts in a row -/

/-- Plain characters are quotable. -/
theorem isQuotable_of_plain {text : Text} (h : ∀ c ∈ text, c ≠ '"' ∧ c ≠ '\\') :
    IsQuotable text := by
  induction text with
  | nil => exact .nil
  | cons c text ih =>
    obtain ⟨hquote, hescape⟩ := h c List.mem_cons_self
    refine .plain hquote hescape (ih ?_)
    intro d hd
    exact h d (List.mem_cons_of_mem c hd)

/-- A quotable text behind another is quotable with it. -/
theorem IsQuotable.append {front rest : Text} (hfront : IsQuotable front) (h : IsQuotable rest) :
    IsQuotable (front ++ rest) := by
  induction hfront with
  | nil => exact h
  | plain hquote hescape _ ih => exact .plain hquote hescape ih
  | escape c _ ih => exact .escape c ih

/-- **A quote that is left open stays open** with plain characters behind it, also where a lone
backslash takes the first of them along. -/
theorem LeavesOpen.append_plain {text back : Text} (h : LeavesOpen text)
    (hback : ∀ c ∈ back, c ≠ '"' ∧ c ≠ '\\') : LeavesOpen (text ++ back) := by
  rcases h with htext | ⟨body, hbody, rfl⟩
  · exact .inl (htext.append (isQuotable_of_plain hback))
  · cases back with
    | nil => exact .inr ⟨body, hbody, List.append_nil _⟩
    | cons c back =>
      -- the lone backslash takes `c` along, and is not alone any more
      have hrest : IsQuotable back := by
        refine isQuotable_of_plain ?_
        intro d hd
        exact hback d (List.mem_cons_of_mem c hd)
      rw [List.append_assoc]
      exact .inl (hbody.append (.escape c hrest))

end CommandConsole.Token
