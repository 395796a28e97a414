import CommandConsole.Proofs.Token.Spelling

/-!
# Reading a line token by token

`Token.Reads pos text lexed` says that the text which starts at byte `pos` reads as `lexed`: a gap
of blanks and a spelled token, again and again, until only blanks are left or a quote is opened for
good. It is the grammar of lines as rules, and it mentions neither the lexer nor its helpers.

The lexer follows the rules, and the rules leave it no choice:

* `Token.reads_lexFrom` — whatever the lexer reads is read by the rules;
* `Token.Reads.lexFrom_eq` — whatever is read by the rules is what the lexer reads.

Hence `Token.lexFrom_eq_iff`. The second half rests on one equation for each kind of token, which
say what the lexer does in front of a gap (`Token.lexFrom_gap_append`), in front of a spelled token
(`Token.lexFrom_append_of_isSpelled`), and in front of a quote that stays open
(`Token.lexFrom_openQuote`).
-/

namespace CommandConsole.Token

/-- **The rules of reading.** `Reads pos text lexed`: the text that starts at byte `pos` of a line
reads as `lexed`. -/
inductive Reads : Nat → Text → Lexed → Prop where
  /-- Nothing but blanks is left. -/
  | blank {pos : Nat} {text : Text} (hblank : Text.isAllBlank text = true) :
      Reads pos text ⟨[], none⟩
  /-- A quote is opened that nothing closes. -/
  | openQuote {pos start stop : Nat} {gap rest : Text} (hgap : Text.isAllBlank gap = true)
      (hopen : LeavesOpen rest) (hstart : start = pos + Text.byteLength gap)
      (hstop : stop = start + 1 + Text.byteLength rest) :
      Reads pos (gap ++ '"' :: rest) ⟨[], some ⟨⟨start, stop⟩, rest⟩⟩
  /-- A token, and what is read behind it. -/
  | token {pos start stop : Nat} {gap source rest : Text} {kind : Kind} {lexed : Lexed}
      (hgap : Text.isAllBlank gap = true) (hspelled : kind.IsSpelled source)
      (hended : kind.IsEndedBy rest) (hstart : start = pos + Text.byteLength gap)
      (hstop : stop = start + Text.byteLength source) (hrest : Reads stop rest lexed) :
      Reads pos (gap ++ (source ++ rest)) (.cons ⟨kind, ⟨start, stop⟩⟩ lexed)

/-! ### The lexer follows the rules -/

theorem isAllBlank_cons {c : Char} {text : Text} (hc : isBlank c = true)
    (h : Text.isAllBlank text = true) : Text.isAllBlank (c :: text) = true := by
  simp only [Text.isAllBlank, List.all_cons, hc, Bool.true_and]
  exact h

/-- A blank more in front makes the first gap longer. -/
theorem Reads.cons_blank {c : Char} {pos : Nat} {text : Text} {lexed : Lexed}
    (hc : isBlank c = true) (h : Reads (pos + c.utf8Size) text lexed) :
    Reads pos (c :: text) lexed := by
  cases h with
  | blank hblank => exact .blank (isAllBlank_cons hc hblank)
  | @openQuote _ start stop gap rest hgap hopen hstart hstop =>
    show Reads pos ((c :: gap) ++ '"' :: rest) _
    refine .openQuote (isAllBlank_cons hc hgap) hopen ?_ hstop
    rw [hstart, Text.byteLength_cons, Nat.add_assoc]
  | @token _ start stop gap source rest kind lexed hgap hspelled hended hstart hstop hrest =>
    show Reads pos ((c :: gap) ++ (source ++ rest)) _
    refine .token (isAllBlank_cons hc hgap) hspelled hended ?_ hstop hrest
    rw [hstart, Text.byteLength_cons, Nat.add_assoc]

/-- Two quotes add two bytes. -/
theorem byteLength_quoted (q : Text) :
    Text.byteLength ('"' :: (q ++ ['"'])) = Text.byteLength q + 2 := by
  simp only [Text.byteLength_cons, Text.byteLength_append, Text.byteLength_nil,
    show ('"').utf8Size = 1 from rfl]
  omega

/-- A token at the very front. -/
theorem Reads.token_front {pos stop : Nat} {source rest : Text} {kind : Kind} {lexed : Lexed}
    (hspelled : kind.IsSpelled source) (hended : kind.IsEndedBy rest)
    (hstop : stop = pos + Text.byteLength source) (hrest : Reads stop rest lexed) :
    Reads pos (source ++ rest) (.cons ⟨kind, ⟨pos, stop⟩⟩ lexed) := by
  show Reads pos ([] ++ (source ++ rest)) _
  exact .token rfl hspelled hended rfl hstop hrest

/-- **Whatever the lexer reads is read by the rules.** -/
theorem reads_lexFrom (pos : Nat) (text : Text) : Reads pos text (lexFrom pos text) := by
  fun_induction lexFrom pos text with
  | case1 pos => exact .blank rfl
  | case2 pos c rest hc ih => exact ih.cons_blank hc
  | case3 pos rest _ ih =>
    have hspelled : (Kind.separator .always).IsSpelled [';'] := rfl
    exact .token_front hspelled trivial rfl ih
  | case4 pos rest _ _ ih =>
    have hspelled : (Kind.separator .onSuccess).IsSpelled ['&'] := rfl
    exact .token_front hspelled trivial rfl ih
  | case5 pos rest hclose =>
    show Reads pos ([] ++ '"' :: rest) _
    exact .openQuote rfl (closeQuote_eq_none_iff.1 hclose) rfl rfl
  | case6 pos rest q after hclose stop _ _ _ ih =>
    obtain ⟨hq, rfl⟩ := closeQuote_eq_some_iff.1 hclose
    have hstop : stop = pos + Text.byteLength ('"' :: (q ++ ['"'])) := by
      rw [byteLength_quoted, ← Nat.add_assoc]
    have hspelled : (Kind.quoted q).IsSpelled ('"' :: (q ++ ['"'])) := ⟨rfl, hq⟩
    have h := Reads.token_front hspelled trivial hstop ih
    rwa [List.cons_append, List.append_assoc] at h
  | case7 pos c rest hblank hsemi hamp hquote word stop ih =>
    have hspelled : (Kind.word word).IsSpelled word := by
      refine ⟨rfl, List.cons_ne_nil _ _, fun h => hquote (Option.some.inj h), fun d hd => ?_⟩
      rcases List.mem_cons.1 hd with rfl | hd
      · -- the first character is none of those for which the lexer has other branches
        exact fun h => h.elim hblank (fun h => h.elim hsemi hamp)
      · exact isWordChar_eq_true_iff.1 (List.all_eq_true.1 List.all_takeWhile d hd)
    have hended : (Kind.word word).IsEndedBy (rest.dropWhile isWordChar) := by
      intro d hd
      have h := List.head?_dropWhile_not isWordChar rest
      rw [hd] at h
      exact isWordChar_eq_false_iff.1 h
    have h := Reads.token_front hspelled hended rfl ih
    rwa [List.cons_append, List.takeWhile_append_dropWhile] at h

/-! ### The rules leave no choice -/

/-- **In front of a gap** the lexer skips it. -/
theorem lexFrom_gap_append {gap : Text} (hgap : Text.isAllBlank gap = true) (pos : Nat)
    (text : Text) : lexFrom pos (gap ++ text) = lexFrom (pos + Text.byteLength gap) text := by
  induction gap generalizing pos with
  | nil => rfl
  | cons c gap ih =>
    simp only [Text.isAllBlank, List.all_cons, Bool.and_eq_true] at hgap
    rw [List.cons_append, lexFrom, if_pos hgap.1, ih hgap.2, Text.byteLength_cons, Nat.add_assoc]

/-- A text of blanks holds no token and no quote. -/
theorem lexFrom_of_isAllBlank {text : Text} (h : Text.isAllBlank text = true) (pos : Nat) :
    lexFrom pos text = ⟨[], none⟩ := by
  have hgap := lexFrom_gap_append h pos []
  rwa [List.append_nil, lexFrom] at hgap

/-- **In front of a quote that stays open** the lexer stops. -/
theorem lexFrom_openQuote {rest : Text} (hopen : LeavesOpen rest) (pos : Nat) :
    lexFrom pos ('"' :: rest) = ⟨[], some ⟨⟨pos, pos + 1 + Text.byteLength rest⟩, rest⟩⟩ := by
  have hclose := closeQuote_eq_none_iff.2 hopen
  rw [lexFrom, if_neg (by decide), if_neg (by decide), if_neg (by decide), if_pos rfl]
  split
  · rfl
  · next h => rw [hclose] at h; cases h

/-- A run of word characters is taken up to the character that ends the word. -/
theorem takeWhile_isWordChar {w rest : Text} (hw : ∀ c ∈ w, ¬ EndsWord c)
    (hended : ∀ c, rest.head? = some c → EndsWord c) :
    (w ++ rest).takeWhile isWordChar = w ∧ (w ++ rest).dropWhile isWordChar = rest := by
  have hall : ∀ c ∈ w, isWordChar c = true := fun c hc => isWordChar_eq_true_iff.2 (hw c hc)
  rw [List.takeWhile_append_of_pos hall, List.dropWhile_append_of_pos hall]
  cases rest with
  | nil => simp
  | cons c rest =>
    have hc : isWordChar c = false := isWordChar_eq_false_iff.2 (hended c rfl)
    simp [hc]

/-- **In front of a spelled token** the lexer reads that token and goes on behind it. -/
theorem lexFrom_append_of_isSpelled {kind : Kind} {source rest : Text}
    (hspelled : kind.IsSpelled source) (hended : kind.IsEndedBy rest) (pos : Nat) :
    lexFrom pos (source ++ rest) = .cons ⟨kind, ⟨pos, pos + Text.byteLength source⟩⟩
      (lexFrom (pos + Text.byteLength source) rest) := by
  cases kind with
  | word w =>
    obtain ⟨rfl, hne, hhead, hw⟩ := hspelled
    cases source with
    | nil => exact absurd rfl hne
    | cons c w =>
      have hc : ¬ EndsWord c := hw c List.mem_cons_self
      have hquote : c ≠ '"' := fun h => hhead (congrArg some h)
      obtain ⟨htake, hdrop⟩ :=
        takeWhile_isWordChar (fun d hd => hw d (List.mem_cons_of_mem c hd)) hended
      rw [List.cons_append, lexFrom, if_neg fun h => hc (.inl h),
        if_neg fun h => hc (.inr (.inl h)), if_neg fun h => hc (.inr (.inr h)), if_neg hquote,
        htake, hdrop]
  | quoted q =>
    obtain ⟨rfl, hq⟩ := hspelled
    have hclose : closeQuote (q ++ '"' :: rest) = some (q, rest) :=
      closeQuote_eq_some_iff.2 ⟨hq, rfl⟩
    rw [byteLength_quoted, ← Nat.add_assoc, List.cons_append, List.append_assoc,
      List.singleton_append, lexFrom, if_neg (by decide), if_neg (by decide), if_neg (by decide),
      if_pos rfl]
    split
    · next h => rw [hclose] at h; cases h
    · next t a h =>
      rw [hclose] at h
      obtain ⟨rfl, rfl⟩ := Prod.mk.inj (Option.some.inj h)
      rfl
  | unterminated q => exact hspelled.elim
  | separator which =>
    obtain rfl : source = _ := hspelled
    cases which with
    | always =>
      rw [Separator.mark, List.singleton_append, lexFrom, if_neg (by decide), if_pos rfl]
      rfl
    | onSuccess =>
      rw [Separator.mark, List.singleton_append, lexFrom, if_neg (by decide), if_neg (by decide),
        if_pos rfl]
      rfl

/-- **Whatever is read by the rules is what the lexer reads.** -/
theorem Reads.lexFrom_eq {pos : Nat} {text : Text} {lexed : Lexed} (h : Reads pos text lexed) :
    lexFrom pos text = lexed := by
  induction h with
  | blank hblank => exact lexFrom_of_isAllBlank hblank _
  | openQuote hgap hopen hstart hstop =>
    subst hstart hstop
    rw [lexFrom_gap_append hgap, lexFrom_openQuote hopen]
  | token hgap hspelled hended hstart hstop _ ih =>
    subst hstart hstop
    rw [lexFrom_gap_append hgap, lexFrom_append_of_isSpelled hspelled hended, ih]

/-- **The lexer reads a text as the rules do**, and in no other way. -/
theorem lexFrom_eq_iff {pos : Nat} {text : Text} {lexed : Lexed} :
    lexFrom pos text = lexed ↔ Reads pos text lexed :=
  ⟨fun h => h ▸ reads_lexFrom pos text, Reads.lexFrom_eq⟩

end CommandConsole.Token
