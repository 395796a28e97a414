import CommandConsole.Proofs.Chain.Draft
import CommandConsole.Proofs.Token.Joining

/-!
# Drafts are read back

A draft that is written down resolves to the chain that was meant, and to nothing else:
`Draft.parse_line`. It holds for every draft over a registry that came about by registrations and
removals, whatever the blanks are and whichever texts are quoted.

The proof has two halves. The line reads as the tokens of the draft (`Draft.tokenize_line`): blanks
stand in front of every item and a mark in front of every further clause, so each word ends where it
should (`Draft.Delimits`). And the tokens are cut into one segment for each clause
(`Draft.segments_tokens`), which stands for the call that is meant
(`Draft.Clause.invocation_segment`), and is not faulty, as no item is malformed.
-/

namespace CommandConsole

open Token (Reads separatorAt)

namespace Draft

variable {κ : Type} {registry : Registry κ}

/-! ### The tokens of a draft -/

/-- The token of an item whose blanks start at byte `pos`. -/
def WrittenItem.token (pos : Nat) (i : WrittenItem) : Token :=
  ⟨i.style.kind i.item.text, ⟨pos + Text.byteLength i.gap, pos + Text.byteLength i.source⟩⟩

/-- The tokens of items that start at byte `pos`. -/
def itemTokens (pos : Nat) : List WrittenItem → List Token
  | [] => []
  | i :: more => i.token pos :: itemTokens (pos + Text.byteLength i.source) more

namespace Clause

/-- Where the items start. -/
def itemsStart (c : Clause registry) (pos : Nat) : Nat :=
  pos + Text.byteLength c.front + Text.byteLength c.command.name

/-- The token of the name. -/
def nameToken (c : Clause registry) (pos : Nat) : Token :=
  ⟨.word c.command.name, ⟨pos + Text.byteLength c.front, c.itemsStart pos⟩⟩

/-- The tokens of a clause that starts at byte `pos`. -/
def tokens (c : Clause registry) (pos : Nat) : List Token :=
  c.nameToken pos :: itemTokens (c.itemsStart pos) c.items

/-- The segment that these tokens are. -/
def segment (c : Clause registry) (after : Separator) (pos : Nat) : Chain.Segment :=
  ⟨after, c.nameToken pos, itemTokens (c.itemsStart pos) c.items⟩

end Clause

namespace Place

/-- The tokens of a further clause, with its separator. -/
def tokens (p : Place registry) : List Token :=
  separatorAt p.separator p.pos :: p.clause.tokens (p.pos + 1)

/-- The run that they are cut into. -/
def run (p : Place registry) : Separator × List Token :=
  (p.separator, p.clause.tokens (p.pos + 1))

/-- The segment that the run is, with its command. -/
def known (p : Place registry) : Chain.Segment × Command κ :=
  (p.clause.segment p.separator (p.pos + 1), p.clause.command)

end Place

/-- The tokens of the line. -/
def tokens (d : Draft registry) : List Token :=
  d.first.tokens 0 ++ d.later.flatMap Place.tokens

/-- The segments of the line, each with its command. -/
def known (d : Draft registry) : List (Chain.Segment × Command κ) :=
  (d.first.segment .always 0, d.first.command) :: d.later.map Place.known

/-! ### The line reads as the tokens -/

/-- **A text that ends every token in front of it**: it is empty, or starts with a character that
ends a word. -/
def Delimits (rest : Text) : Prop := ∀ c, rest.head? = some c → Token.EndsWord c

theorem Delimits.isEndedBy {rest : Text} (h : Delimits rest) (kind : Token.Kind) :
    kind.IsEndedBy rest := by
  cases kind with
  | word w => exact h
  | _ => trivial

/-- Blanks in front of such a text make for another one. -/
theorem Delimits.gap_append {gap rest : Text} (hgap : Text.isAllBlank gap = true)
    (h : Delimits rest) : Delimits (gap ++ rest) := by
  cases gap with
  | nil => exact h
  | cons c gap =>
    intro d hd
    obtain rfl : c = d := Option.some.inj hd
    exact .inl (List.all_eq_true.1 hgap c List.mem_cons_self)

/-- So do items, which start with a blank. -/
theorem Delimits.items_append {rest : Text} (h : Delimits rest) (items : List WrittenItem) :
    Delimits (itemsSource items ++ rest) := by
  cases items with
  | nil => exact h
  | cons i more =>
    intro d hd
    obtain ⟨c, gap, hgap⟩ := List.exists_cons_of_ne_nil i.gap_ne_nil
    have hblank := i.gap_blank
    rw [hgap] at hblank
    simp only [itemsSource_cons, WrittenItem.source, hgap, List.cons_append, List.head?_cons,
      Option.some.injEq] at hd
    subst hd
    exact .inl (List.all_eq_true.1 hblank c List.mem_cons_self)

/-- Further clauses start with a mark; without any, the line ends. -/
theorem delimits_moreText (more : List (Separator × Clause registry)) :
    Delimits (moreText more) := by
  cases more with
  | nil => exact nofun
  | cons m more =>
    intro c hc
    obtain rfl : m.1.mark = c := Option.some.inj hc
    exact Token.endsWord_mark m.1

/-- **Items read as their tokens**, in front of a text that delimits. -/
theorem reads_items {items : List WrittenItem} {pos : Nat} {rest : Text} {tokens : List Token}
    (hrest : Delimits rest)
    (h : Reads (pos + Text.byteLength (itemsSource items)) rest ⟨tokens, none⟩) :
    Reads pos (itemsSource items ++ rest) ⟨itemTokens pos items ++ tokens, none⟩ := by
  induction items generalizing pos with
  | nil => exact h
  | cons i more ih =>
    have hsource : itemsSource (i :: more) ++ rest =
        i.gap ++ (i.style.write i.item.text ++ (itemsSource more ++ rest)) := by
      rw [itemsSource_cons, WrittenItem.source, List.append_assoc, List.append_assoc]
    have hstop : pos + Text.byteLength i.source =
        pos + Text.byteLength i.gap + Text.byteLength (i.style.write i.item.text) := by
      rw [WrittenItem.source, Text.byteLength_append, Nat.add_assoc]
    have hmore : Reads (pos + Text.byteLength i.source) (itemsSource more ++ rest)
        ⟨itemTokens (pos + Text.byteLength i.source) more ++ tokens, none⟩ := by
      refine ih ?_
      rwa [itemsSource_cons, Text.byteLength_append, ← Nat.add_assoc] at h
    rw [hsource]
    exact .token i.gap_blank i.spelled ((hrest.items_append more).isEndedBy _) rfl hstop hmore

/-- **A clause reads as its tokens**, in front of a text that delimits. -/
theorem reads_clause (hbuilt : registry.Built) (c : Clause registry) {pos : Nat} {rest : Text}
    {tokens : List Token} (hrest : Delimits rest) (h : Reads (c.stop pos) rest ⟨tokens, none⟩) :
    Reads pos (c.text ++ rest) ⟨c.tokens pos ++ tokens, none⟩ := by
  have htext : c.text ++ rest =
      c.front ++ (c.command.name ++ (itemsSource c.items ++ (c.back ++ rest))) := by
    simp only [Clause.text, Clause.source, List.append_assoc]
  have hname : (Token.Kind.word c.command.name).IsSpelled c.command.name :=
    Registry.isSpelled_of_isCommandName
      (hbuilt.isCommandName c.command (Registry.mem_commands_of_find? c.found))
  -- the blanks at the end go with what follows
  have hback : Delimits (c.back ++ rest) := hrest.gap_append c.back_blank
  have hbehind : Reads (c.itemsStart pos + Text.byteLength (itemsSource c.items)) (c.back ++ rest)
      ⟨tokens, none⟩ := by
    have hstop : c.stop pos = c.itemsStart pos + Text.byteLength (itemsSource c.items) +
        Text.byteLength c.back := by
      simp only [Clause.stop, Clause.itemsStart, Clause.text, Clause.source, Text.byteLength_append]
      omega
    rw [hstop] at h
    exact h.gap_append c.back_blank
  have hitems := reads_items hback hbehind
  rw [htext]
  exact .token c.front_blank hname ((hback.items_append c.items).isEndedBy _) rfl rfl hitems

/-- **Further clauses read as their tokens**, to the end of the line. -/
theorem reads_moreText (hbuilt : registry.Built) (more : List (Separator × Clause registry))
    (pos : Nat) :
    Reads pos (moreText more) ⟨(places pos more).flatMap Place.tokens, none⟩ := by
  induction more generalizing pos with
  | nil => exact .blank rfl
  | cons m more ih =>
    obtain ⟨which, c⟩ := m
    have hclause := reads_clause hbuilt c (delimits_moreText more) (ih (c.stop (pos + 1)))
    have hmark : (Token.Kind.separator which).IsSpelled [which.mark] := rfl
    have hstop : pos + 1 = pos + Text.byteLength [which.mark] := by rw [Token.byteLength_mark]
    exact .token_front hmark trivial hstop hclause

/-- **The line of a draft reads as its tokens.** -/
theorem tokenize_line (hbuilt : registry.Built) (d : Draft registry) :
    Token.tokenize d.line = .ok d.tokens := by
  have hmore := reads_moreText hbuilt d.more (d.first.stop 0)
  have hreads := reads_clause hbuilt d.first (delimits_moreText d.more) hmore
  exact Token.tokenize_eq_ok_iff.2 (Token.lexFrom_eq_iff.2 hreads)

/-! ### The tokens are cut into one segment for each clause -/

theorem isSeparator_of_mem_itemTokens {items : List WrittenItem} {pos : Nat} {t : Token}
    (h : t ∈ itemTokens pos items) : t.kind.isSeparator = false := by
  induction items generalizing pos with
  | nil => exact absurd h List.not_mem_nil
  | cons i more ih =>
    rcases List.mem_cons.1 h with rfl | h
    · exact i.style.isSeparator_kind i.item.text
    · exact ih h

theorem cut_clause_append (c : Clause registry) (pos : Nat) (rest : List Token) :
    Chain.cut (c.tokens pos ++ rest) =
      (c.tokens pos ++ (Chain.cut rest).1, (Chain.cut rest).2) := by
  refine Chain.cut_append ?_ rest
  intro t ht
  rcases List.mem_cons.1 ht with rfl | ht
  · rfl
  · exact isSeparator_of_mem_itemTokens ht

/-- **Each separator starts a run**, which is its clause. -/
theorem cut_places (ps : List (Place registry)) :
    Chain.cut (ps.flatMap Place.tokens) = ([], ps.map Place.run) := by
  induction ps with
  | nil => rfl
  | cons p ps ih =>
    have hrun := cut_clause_append p.clause (p.pos + 1) (ps.flatMap Place.tokens)
    rw [ih, List.append_nil] at hrun
    rw [List.flatMap_cons, Place.tokens, List.cons_append, Chain.cut_cons_separator rfl, hrun]
    rfl

theorem segmentsOf_map_run (ps : List (Place registry)) :
    Chain.segmentsOf (ps.map Place.run) = (ps.map Place.known).map Prod.fst := by
  induction ps with
  | nil => rfl
  | cons p ps ih =>
    rw [List.map_cons, Place.run, Clause.tokens, Chain.segmentsOf_cons_cons, ih]
    rfl

/-- **The tokens of a draft are cut into the segments of its clauses.** -/
theorem segments_tokens (d : Draft registry) :
    Chain.segments d.tokens = d.known.map Prod.fst := by
  have hrun := cut_clause_append d.first 0 (d.later.flatMap Place.tokens)
  rw [cut_places, List.append_nil] at hrun
  rw [Chain.segments, tokens, hrun, Clause.tokens, Chain.segmentsOf_cons_cons, segmentsOf_map_run]
  rfl

/-! ### What the items of a segment say -/

theorem WrittenItem.text_ofToken (i : WrittenItem) (pos : Nat) :
    (Argument.ofToken (i.token pos)).text = i.item.text := by
  show (i.token pos).kind.text?.getD [] = i.item.text
  rw [WrittenItem.token, Style.text?_kind, Option.getD_some]

theorem WrittenItem.role_ofToken (i : WrittenItem) (pos : Nat) :
    Argument.role (Argument.ofToken (i.token pos)).text = i.item.role := by
  rw [i.text_ofToken, Item.role_text]

/-- **No item is malformed.** -/
theorem lastMalformed?_itemTokens (items : List WrittenItem) (pos : Nat) :
    Argument.lastMalformed? ((itemTokens pos items).map Argument.ofToken) = none := by
  induction items generalizing pos with
  | nil => rfl
  | cons i more ih =>
    have hsound : ¬ Argument.IsMalformed (Argument.ofToken (i.token pos)).text := by
      rw [← Argument.role_eq_malformed_iff, i.role_ofToken]
      exact i.item.role_ne_malformed
    rw [itemTokens, List.map_cons, Argument.lastMalformed?_cons, ih, Option.none_or, if_neg hsound]

/-- **The positional texts are left**, verbatim and in order. -/
theorem positionals_itemTokens (items : List WrittenItem) (pos : Nat) :
    (Argument.positionals ((itemTokens pos items).map Argument.ofToken)).map Argument.text =
      items.filterMap fun i => i.item.positional? := by
  induction items generalizing pos with
  | nil => rfl
  | cons i more ih =>
    have htext := i.text_ofToken pos
    have hrole := i.role_ofToken pos
    rw [itemTokens, List.map_cons, List.filterMap_cons]
    cases hitem : i.item with
    | positional text plain =>
      rw [hitem] at htext hrole
      rw [Argument.positionals_cons_of_isPositional (Argument.role_eq_positional_iff.1 hrole),
        List.map_cons, htext, ih]
      rfl
    | letters cs ne_nil all =>
      rw [hitem] at hrole
      rw [Argument.positionals_cons_of_denotes (Argument.role_eq_flags_iff.1 hrole), ih]
      rfl
    | name cs ne_nil all =>
      rw [hitem] at hrole
      rw [Argument.positionals_cons_of_denotes (Argument.role_eq_flags_iff.1 hrole), ih]
      rfl

/-- **The flags are those that are meant.** -/
theorem denoted_itemTokens (items : List WrittenItem) (pos : Nat) :
    Argument.denoted ((itemTokens pos items).map Argument.ofToken) =
      items.flatMap fun i => i.item.flags := by
  induction items generalizing pos with
  | nil => rfl
  | cons i more ih =>
    have hflags : Argument.flagNames (Argument.ofToken (i.token pos)) = i.item.flags := by
      rw [Argument.flagNames, i.role_ofToken]
      cases i.item <;> rfl
    have hmore := ih (pos + Text.byteLength i.source)
    unfold Argument.denoted at hmore ⊢
    rw [itemTokens, List.map_cons, List.flatMap_cons, List.flatMap_cons, hflags, hmore]

theorem stop_itemTokens (items : List WrittenItem) (pos : Nat) {t : Token}
    (ht : t.span.stop = pos) :
    ((itemTokens pos items).getLastD t).span.stop = pos + Text.byteLength (itemsSource items) := by
  induction items generalizing pos t with
  | nil => exact ht
  | cons i more ih =>
    have hmore := ih (pos + Text.byteLength i.source) (t := i.token pos) rfl
    rw [itemTokens, List.getLastD_cons, hmore, itemsSource_cons, Text.byteLength_append,
      Nat.add_assoc]

/-! ### What the segments stand for -/

namespace Clause

/-- A clause ends with its last token, blanks apart. -/
theorem stop_tokens (c : Clause registry) (pos : Nat) :
    ((itemTokens (c.itemsStart pos) c.items).getLastD (c.nameToken pos)).span.stop =
      pos + Text.byteLength c.front + Text.byteLength c.source := by
  rw [stop_itemTokens c.items (c.itemsStart pos) (t := c.nameToken pos) rfl, itemsStart, source,
    Text.byteLength_append, ← Nat.add_assoc]

/-- **A segment stands for the call that is meant.** -/
theorem invocation_segment (c : Clause registry) (after : Separator) (pos : Nat)
    (independent : Bool) :
    (c.segment after pos).invocation c.command independent = c.invocation independent pos := by
  have hargs : (c.segment after pos).arguments =
      (itemTokens (c.itemsStart pos) c.items).map Argument.ofToken := rfl
  have hspan : (c.segment after pos).span = ⟨pos + Text.byteLength c.front,
      pos + Text.byteLength c.front + Text.byteLength c.source⟩ := by
    show Chain.across (c.nameToken pos) (itemTokens (c.itemsStart pos) c.items) = _
    rw [Chain.across, c.stop_tokens pos]
    rfl
  rw [Chain.Segment.invocation, hargs, hspan, positionals_itemTokens, denoted_itemTokens]
  rfl

/-- Its command is found, and it is not faulty. -/
theorem isSound (c : Clause registry) (after : Separator) (pos : Nat) :
    registry.find? (c.segment after pos).name.text = some c.command ∧
      ¬ (c.segment after pos).IsFaulty registry.find? := by
  refine ⟨c.found, ?_⟩
  rintro ⟨-, a, ha, hmalformed⟩
  have hnone : Argument.lastMalformed? (c.segment after pos).arguments = none :=
    lastMalformed?_itemTokens c.items (c.itemsStart pos)
  exact Argument.lastMalformed?_eq_none_iff.1 hnone a ha hmalformed

end Clause

/-- **All segments of a draft are sound.** -/
theorem isSound_of_mem_known (d : Draft registry) :
    ∀ k ∈ d.known, registry.find? k.1.name.text = some k.2 ∧ ¬ k.1.IsFaulty registry.find? := by
  refine List.forall_mem_cons.2 ⟨d.first.isSound .always 0, ?_⟩
  intro k hk
  obtain ⟨p, -, rfl⟩ := List.mem_map.1 hk
  exact p.clause.isSound p.separator (p.pos + 1)

/-- Segments whose commands are found are known, each by its command. -/
theorem known_map_fst {ks : List (Chain.Segment × Command κ)}
    (h : ∀ k ∈ ks, registry.find? k.1.name.text = some k.2) :
    Chain.known registry.find? (ks.map Prod.fst) = ks := by
  induction ks with
  | nil => rfl
  | cons k ks ih =>
    obtain ⟨hk, hks⟩ := List.forall_mem_cons.1 h
    have hmore := ih hks
    unfold Chain.known at hmore ⊢
    rw [List.map_cons, List.filterMap_cons, hk, hmore]
    rfl

/-- **The segments of a draft stand for the calls that are meant.** -/
theorem invocationsOf_segments (d : Draft registry) :
    Chain.invocationsOf registry.find? (Chain.segments d.tokens) = d.chain.invocations := by
  have hfirst := d.first.invocation_segment .always 0 true
  have hlater : (d.later.map Place.known).map Chain.laterInvocation =
      d.later.map Place.invocation := by
    rw [List.map_map]
    refine List.map_congr_left ?_
    intro p _
    exact p.clause.invocation_segment p.separator (p.pos + 1) (p.separator == .always)
  rw [segments_tokens, Chain.invocationsOf,
    known_map_fst fun k hk => (d.isSound_of_mem_known k hk).1]
  simp only [known, hlater, hfirst]
  rfl

/-- A line ends where its last call does. `i` is the call that the tokens so far end with. -/
theorem stop_places {tokens : List Token} {t : Token} {i : Invocation κ}
    (h : (tokens.getLastD t).span.stop = i.span.stop) (ps : List (Place registry)) :
    ((tokens ++ ps.flatMap Place.tokens).getLastD t).span.stop =
      ((ps.map Place.invocation).getLastD i).span.stop := by
  induction ps generalizing tokens i with
  | nil => rwa [List.flatMap_nil, List.append_nil]
  | cons p ps ih =>
    have hlast : ((tokens ++ p.tokens).getLastD t).span.stop = p.invocation.span.stop := by
      have hclause := p.clause.stop_tokens (p.pos + 1)
      rw [Place.tokens, Clause.tokens, List.getLastD_eq_getLast?, List.getLast?_append,
        List.getLast?_cons, List.getLast?_cons, Option.some_or, Option.getD_some,
        Option.getD_some, ← List.getLastD_eq_getLast?, hclause]
      rfl
    rw [List.flatMap_cons, List.map_cons, List.getLastD_cons, ← List.append_assoc]
    exact ih hlast

/-- **The line spans what the chain spans.** -/
theorem lineSpan_tokens (d : Draft registry) : Chain.lineSpan d.tokens = d.chain.span := by
  have hfirst := d.first.stop_tokens 0
  have hlast := stop_places (i := d.first.invocation true 0) hfirst d.later
  rw [tokens, Clause.tokens, List.cons_append, Chain.lineSpan, Chain.across, hlast]
  rfl

/-! ### The line resolves to what is meant -/

/-- **A draft that is written down is read back**: the line resolves to the chain that is meant. -/
theorem parse_line (hbuilt : registry.Built) (d : Draft registry) :
    Chain.parse registry.find? d.line = .ok d.chain := by
  have hsound : ∀ s ∈ Chain.segments d.tokens, ¬ s.IsFaulty registry.find? := by
    rw [segments_tokens]
    intro s hs
    obtain ⟨k, hk, rfl⟩ := List.mem_map.1 hs
    exact (d.isSound_of_mem_known k hk).2
  have hresolution := Chain.isResolution_of_sound (d.tokenize_line hbuilt) hsound
  rw [Chain.parse, hresolution.resolve_eq, invocationsOf_segments, lineSpan_tokens]

/-- Two commands, one of them with a name that looks like a flag. -/
def twoCommands : Registry Unit := ⟨[("a", .plain "a" ()), ("?é", .plain "?é" ())]⟩

theorem built_twoCommands : twoCommands.Built :=
  .register (.register .empty (c := .plain "a" ()) rfl) (c := .plain "?é" ()) rfl

/-- A draft with both styles, both kinds of flags, a quoted separator and an escaped quote. -/
def bothStyles : Draft twoCommands where
  first := {
    front := ['\u00a0'], command := .plain "a" (), back := " "
    items := [
      { gap := " ", item := .positional ";\\\"" nofun, style := .quoted
        gap_ne_nil := by decide, gap_blank := by decide
        spelled := ⟨rfl, .plain (by decide) (by decide) (.escape '"' .nil)⟩ },
      { gap := "\t", item := .letters "éx" (by decide) (List.all_eq_true.1 (by decide))
        style := .bare
        gap_ne_nil := by decide, gap_blank := by decide
        spelled := Registry.isSpelled_of_isCommandName (by decide) }]
    front_blank := by decide, back_blank := by decide, found := by decide }
  more := [(.onSuccess, {
    front := [], command := .plain "?é" (), back := []
    items := [
      { gap := " ", item := .positional "?" (fun _ => rfl), style := .bare
        gap_ne_nil := by decide, gap_blank := by decide
        spelled := Registry.isSpelled_of_isCommandName (by decide) },
      { gap := "  ", item := .name "up" (by decide) (List.all_eq_true.1 (by decide))
        style := .quoted
        gap_ne_nil := by decide, gap_blank := by decide
        spelled := ⟨rfl, .plain (by decide) (by decide) (.plain (by decide) (by decide)
          (.plain (by decide) (by decide) (.plain (by decide) (by decide) .nil)))⟩ }]
    front_blank := by decide, back_blank := by decide, found := by decide })]

/-- The draft is read back. -/
theorem parse_line_bothStyles :
    twoCommands.Built ∧ bothStyles.line = "\u00a0a \";\\\"\"\t?éx &?é ?  \"??up\"".toList ∧
      Chain.parse twoCommands.find? bothStyles.line = .ok bothStyles.chain ∧
      bothStyles.chain.invocations.map
          (fun i => (i.name, i.arguments, i.flags.names, i.independent, i.span)) =
        [("a".toList, [";\\\"".toList], ["x".toList, "é".toList], true, ⟨2, 14⟩),
          ("?é".toList, ["?".toList], ["up".toList], false, ⟨16, 29⟩)] :=
  ⟨built_twoCommands, by decide, parse_line built_twoCommands bothStyles, by decide⟩

end Draft

end CommandConsole
