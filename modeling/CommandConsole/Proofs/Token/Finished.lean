import CommandConsole.Proofs.Token.Seam

/-!
# The finished tokens of a line

A line that is being typed is read again with every key. With more text at its end only its last
token can change, and only if it is a word or an unterminated string that goes on to the end of the
line (`Token.unfinished?`). All other tokens are **finished** (`Token.finished`): they stay, at
their places, whatever is typed.

A line without an unfinished token ends at a seam with whatever comes
(`Token.settled_of_unfinished?_eq_none`). Otherwise the line is settled in front of its unfinished
token, and what stands in place of that token later on depends on the token and the new text alone
(`Token.exists_settled_of_unfinished?`): a word goes on as a longer word, and an unterminated string
as a longer one or as one that is closed (`Token.Kind.MayBecome`).
-/

namespace CommandConsole.Token

/-! ### What can still change -/

/-- **A token that more text could change**, in a line that is `length` bytes long. -/
def isUnfinished (length : Nat) (t : Token) : Bool :=
  match t.kind with
  | .word _ | .unterminated _ => t.span.stop == length
  | .quoted _ | .separator _ => false

/-- The last token of a line, if more text could change it. -/
def unfinished? (line : Text) : Option Token :=
  (tokenizeLossy line).getLast?.filter (isUnfinished (Text.byteLength line))

/-- The tokens of a line that no more text can change. -/
def finished (line : Text) : List Token :=
  match unfinished? line with
  | none => tokenizeLossy line
  | some _ => (tokenizeLossy line).dropLast

/-- **What may become of an unfinished token** when more text is typed. -/
def Kind.MayBecome : Kind → Kind → Prop
  | .word w, .word w' => w <+: w'
  | .unterminated q, .quoted q' => q <+: q'
  | .unterminated q, .unterminated q' => q <+: q'
  | _, _ => False

theorem finished_of_none {line : Text} (h : unfinished? line = none) :
    finished line = tokenizeLossy line := by
  rw [finished, h]

theorem tokenizeLossy_eq_concat {line : Text} {t : Token} (h : unfinished? line = some t) :
    tokenizeLossy line = finished line ++ [t] := by
  obtain ⟨hlast, -⟩ := Option.filter_eq_some_iff.1 h
  obtain ⟨init, hinit⟩ := List.getLast?_eq_some_iff.1 hlast
  rw [finished, h, hinit, List.dropLast_concat]

/-- An unfinished token is a word or an unterminated string, and goes on to the end. -/
theorem goesToEnd_of_unfinished? {line : Text} {t : Token} (h : unfinished? line = some t) :
    GoesToEnd (Text.byteLength line) t ∧
      ((∃ w, t.kind = .word w) ∨ ∃ q, t.kind = .unterminated q) := by
  obtain ⟨-, hunfinished⟩ := Option.filter_eq_some_iff.1 h
  rw [isUnfinished] at hunfinished
  split at hunfinished
  · next w hkind => exact ⟨.inl (by simpa using hunfinished), .inl ⟨w, hkind⟩⟩
  · next q hkind => exact ⟨.inr ⟨q, hkind⟩, .inr ⟨q, hkind⟩⟩
  · cases hunfinished
  · cases hunfinished

/-- **A line without an unfinished token ends at a seam**, whatever comes. -/
theorem settled_of_unfinished?_eq_none {line : Text} (h : unfinished? line = none)
    (more : Text) : Settled 0 line (tokenizeLossy line) more := by
  cases htokenize : tokenize line with
  | ok tokens =>
    rw [tokenizeLossy_of_tokenize htokenize]
    refine IsSeam.settled (.inr (.inr ?_)) htokenize
    rintro ⟨t, w, hlast, hkind, hstop⟩
    rw [← tokenizeLossy_of_tokenize htokenize] at hlast
    rw [unfinished?, hlast, Option.filter_some, isUnfinished, hkind, hstop] at h
    simp at h
  | error e =>
    -- an open quote would be the unfinished token
    obtain ⟨front, rest, tokens, -, -, -, -, hlossy⟩ := exists_front_of_tokenize_error htokenize
    rw [unfinished?, hlossy, List.getLast?_concat, Option.filter_some, isUnfinished] at h
    simp at h

/-! ### What becomes of an unfinished token -/

theorem tokenizeLossy_append_of_isSpelled {kind : Kind} {source rest : Text}
    (hspelled : kind.IsSpelled source) (hended : kind.IsEndedBy rest) :
    ∃ after, tokenizeLossy (source ++ rest) =
      ⟨kind, ⟨0, Text.byteLength source⟩⟩ :: after :=
  ⟨_, (Settled.of_isSpelled hspelled hended).tokenizeLossy_append⟩

/-- **A word goes on** as far as it can. -/
theorem exists_longer_word {w : Text} (hspelled : (Kind.word w).IsSpelled w) (more : Text) :
    ∃ u after, tokenizeLossy (w ++ more) = u :: after ∧ u.span.start = 0 ∧
      (Kind.word w).MayBecome u.kind := by
  obtain ⟨-, hne, hhead, hw⟩ := hspelled
  have hlonger : (Kind.word (w ++ more.takeWhile isWordChar)).IsSpelled
      (w ++ more.takeWhile isWordChar) := by
    refine ⟨rfl, fun h => hne (List.append_eq_nil_iff.1 h).1, ?_, ?_⟩
    · obtain ⟨c, tail, rfl⟩ := List.exists_cons_of_ne_nil hne
      exact hhead
    · intro c hc
      rcases List.mem_append.1 hc with hc | hc
      · exact hw c hc
      · exact isWordChar_eq_true_iff.1 (List.all_eq_true.1 List.all_takeWhile c hc)
  -- the longer word ends where the new text has a character that ends words, or with it
  have hended : (Kind.word (w ++ more.takeWhile isWordChar)).IsEndedBy
      (more.dropWhile isWordChar) := by
    intro c hc
    have h := List.head?_dropWhile_not isWordChar more
    rw [hc] at h
    exact isWordChar_eq_false_iff.1 h
  obtain ⟨after, hafter⟩ := tokenizeLossy_append_of_isSpelled hlonger hended
  rw [List.append_assoc, List.takeWhile_append_dropWhile] at hafter
  exact ⟨_, after, hafter, rfl, List.prefix_append _ _⟩

/-- A closing quote that is found in more text stands behind what was left open. -/
theorem LeavesOpen.prefix_of_closeQuote {q more q' after : Text} (hopen : LeavesOpen q)
    (h : closeQuote (q ++ more) = some (q', after)) : q <+: q' := by
  obtain ⟨hq', heq⟩ := closeQuote_eq_some_iff.1 h
  rcases List.append_eq_append_iff.1 heq with ⟨m, rfl, -⟩ | ⟨m, rfl, hm⟩
  · exact List.prefix_append q m
  · cases m with
    | nil => exact ⟨[], by simp⟩
    | cons c m =>
      -- the closing quote would stand in `q` itself
      obtain ⟨rfl, rfl⟩ := List.cons.inj hm
      have hclosed : closeQuote (q' ++ '"' :: m) = some (q', m) :=
        closeQuote_eq_some_iff.2 ⟨hq', rfl⟩
      rw [closeQuote_eq_none_iff.2 hopen] at hclosed
      cases hclosed

/-- **An unterminated string goes on**, to its closing quote or to the end. -/
theorem exists_longer_string {q : Text} (hopen : LeavesOpen q) (more : Text) :
    ∃ u after, tokenizeLossy ('"' :: q ++ more) = u :: after ∧ u.span.start = 0 ∧
      (Kind.unterminated q).MayBecome u.kind := by
  rw [List.cons_append]
  cases hclose : closeQuote (q ++ more) with
  | none =>
    rw [tokenizeLossy_eq_all, lex, lexFrom_openQuote (closeQuote_eq_none_iff.1 hclose)]
    exact ⟨_, [], rfl, rfl, List.prefix_append q more⟩
  | some found =>
    obtain ⟨q', rest⟩ := found
    obtain ⟨hq', heq⟩ := closeQuote_eq_some_iff.1 hclose
    have hspelled : (Kind.quoted q').IsSpelled ('"' :: (q' ++ ['"'])) := ⟨rfl, hq'⟩
    have hended : (Kind.quoted q').IsEndedBy rest := trivial
    obtain ⟨after, hafter⟩ := tokenizeLossy_append_of_isSpelled hspelled hended
    rw [List.cons_append, List.append_assoc, List.singleton_append, ← heq] at hafter
    exact ⟨_, after, hafter, rfl, hopen.prefix_of_closeQuote hclose⟩

/-- **An unfinished token is cut off at its start**: the line in front of it is settled, and from it
a token of the same kind or a closed string grows. -/
theorem exists_settled_of_unfinished? {line : Text} {t : Token} (h : unfinished? line = some t) :
    ∃ front source, line = front ++ source ∧ source ≠ [] ∧
      t.span = ⟨Text.byteLength front, Text.byteLength line⟩ ∧
      Settled 0 front (finished line) source ∧
      ∀ more, ∃ u after, tokenizeLossy (source ++ more) = u :: after ∧ u.span.start = 0 ∧
        t.kind.MayBecome u.kind := by
  obtain ⟨hend, hkind⟩ := goesToEnd_of_unfinished? h
  rw [← Nat.zero_add (Text.byteLength line)] at hend
  obtain ⟨front, source, rfl, hleads, hspan, hsettled⟩ :=
    (readsForgiving_tokenizeLossy line).exists_settled_front (tokenizeLossy_eq_concat h) hend
  rw [Nat.zero_add, Nat.zero_add] at hspan
  refine ⟨front, source, rfl, hleads.ne_nil, hspan, hsettled, fun more => ?_⟩
  rcases hkind with ⟨w, hw⟩ | ⟨q, hq⟩
  · rw [hw] at hleads ⊢
    obtain ⟨⟨rfl, hspelled⟩, -⟩ := hleads
    exact exists_longer_word ⟨rfl, hspelled⟩ more
  · rw [hq] at hleads ⊢
    obtain ⟨rfl, hopen, -⟩ := hleads
    exact exists_longer_string hopen more

end CommandConsole.Token
