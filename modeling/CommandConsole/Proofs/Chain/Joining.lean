import CommandConsole.Proofs.Chain.Resolution
import CommandConsole.Proofs.Token.Joining

/-!
# Resolving two lines joined by a separator

Two lines written as one, with a `;` between them, resolve almost like the one line and then the
other, if the first leaves no quote open. The segments of the joined line are those of the first and
those of the second, further on (`Chain.segments_append_always`), so the names that are looked up
are those of both, and the calls are those of both. Three things cross the joint:

* an error of the lexer in the second line comes before any error in the first, since nothing is
  resolved before the whole line is read;
* a faulty segment of the first line ends the resolution, so the second is not looked at
  (`Chain.resolve_append_of_faulty_front`);
* the first call of the second line is no longer the first of its line, so it becomes dependent on
  the one before it if it follows a `&`.

`Chain.parse_append_always` is the statement, with all these cases. Which separator a call follows
is said there by looking at the tokens of the joined line: it is the nearest one in front of its
name (`Chain.nearestSeparator?`). For a segment this is the separator that the resolver goes by
(`Chain.nearestSeparator?_eq`).
-/

namespace CommandConsole

open Token (InOrder separatorAt)

/-! ### Further on in the line -/

/-- The argument `n` bytes further on. -/
def Argument.shift (n : Nat) (a : Argument) : Argument := { a with span := a.span.shift n }

/-- The call `n` bytes further on. -/
def Invocation.shift {κ : Type} (n : Nat) (i : Invocation κ) : Invocation κ :=
  { i with span := i.span.shift n }

namespace Argument

/-- The last malformed argument does not depend on where the arguments stand. -/
theorem lastMalformed?_map_shift (n : Nat) (args : List Argument) :
    lastMalformed? (args.map (shift n)) = (lastMalformed? args).map (shift n) := by
  rw [lastMalformed?, lastMalformed?, List.filter_map, List.getLast?_map]
  rfl

/-- Nor do the texts of the positional arguments. -/
theorem positionals_map_shift (n : Nat) (args : List Argument) :
    (positionals (args.map (shift n))).map text = (positionals args).map text := by
  rw [positionals, positionals, List.filter_map, List.map_map]
  rfl

/-- Nor do the flags. -/
theorem denoted_map_shift (n : Nat) (args : List Argument) :
    denoted (args.map (shift n)) = denoted args := by
  rw [denoted, denoted, List.flatMap_map]
  rfl

end Argument

namespace Chain

variable {κ : Type} {lookup : Lookup κ}

namespace Segment

/-- The segment `n` bytes further on. -/
def shift (n : Nat) (s : Segment) : Segment := ⟨s.after, s.name.shift n, s.rest.map (Token.shift n)⟩

theorem arguments_shift (n : Nat) (s : Segment) :
    (s.shift n).arguments = s.arguments.map (Argument.shift n) := by
  simp only [arguments, shift, List.map_map]
  rfl

theorem span_shift (n : Nat) (s : Segment) : (s.shift n).span = s.span.shift n := by
  simp only [span, shift, across, Span.shift, Span.mk.injEq]
  refine ⟨rfl, ?_⟩
  rw [List.getLastD_eq_getLast?, List.getLastD_eq_getLast?, List.getLast?_map]
  cases s.rest.getLast? <;> rfl

/-- The call of a segment further on is its call, further on. -/
theorem invocation_shift (n : Nat) (s : Segment) (command : Command κ) (independent : Bool) :
    (s.shift n).invocation command independent = (s.invocation command independent).shift n := by
  simp only [invocation, Invocation.shift, arguments_shift, span_shift,
    Argument.positionals_map_shift, Argument.denoted_map_shift]

/-- A segment is faulty wherever it stands. -/
theorem isFaulty_shift_iff (n : Nat) (s : Segment) :
    (s.shift n).IsFaulty lookup ↔ s.IsFaulty lookup := by
  rw [IsFaulty, IsFaulty, ← Argument.isSome_lastMalformed?_iff,
    ← Argument.isSome_lastMalformed?_iff, arguments_shift, Argument.lastMalformed?_map_shift,
    Option.isSome_map]
  rfl

end Segment

/-! ### The segments of a joined line -/

theorem cut_map_shift (n : Nat) (tokens : List Token) :
    cut (tokens.map (Token.shift n)) =
      ((cut tokens).1.map (Token.shift n),
        (cut tokens).2.map fun run => (run.1, run.2.map (Token.shift n))) := by
  induction tokens with
  | nil => rfl
  | cons t rest ih =>
    rw [List.map_cons]
    cases hsep : t.kind.isSeparator with
    | true =>
      obtain ⟨which, hwhich⟩ := exists_eq_separator hsep
      have hwhich' : (t.shift n).kind = .separator which := hwhich
      rw [cut_cons_separator hwhich, cut_cons_separator hwhich', ih]
      rfl
    | false =>
      have hsep' : (t.shift n).kind.isSeparator = false := hsep
      rw [cut_cons_word hsep, cut_cons_word hsep', ih]
      rfl

theorem segmentsOf_map_shift (n : Nat) (runs : List (Separator × List Token)) :
    segmentsOf (runs.map fun run => (run.1, run.2.map (Token.shift n))) =
      (segmentsOf runs).map (Segment.shift n) := by
  induction runs with
  | nil => rfl
  | cons run runs ih =>
    obtain ⟨after, tokens⟩ := run
    cases tokens with
    | nil => exact ih
    | cons name rest => exact congrArg (_ :: ·) ih

/-- Tokens further on make the same segments, further on. -/
theorem segments_map_shift (n : Nat) (tokens : List Token) :
    segments (tokens.map (Token.shift n)) = (segments tokens).map (Segment.shift n) := by
  rw [segments, segments, cut_map_shift, ← segmentsOf_map_shift, List.map_cons]

/-- Cutting at a separator in the middle. -/
theorem cut_append_separator {t : Token} {which : Separator} (h : t.kind = .separator which)
    (front back : List Token) :
    cut (front ++ t :: back) =
      ((cut front).1, (cut front).2 ++ (which, (cut back).1) :: (cut back).2) := by
  induction front with
  | nil => exact cut_cons_separator h back
  | cons u front ih =>
    rw [List.cons_append]
    cases hsep : u.kind.isSeparator with
    | true =>
      obtain ⟨other, hother⟩ := exists_eq_separator hsep
      rw [cut_cons_separator hother, cut_cons_separator hother, ih, List.cons_append]
    | false => rw [cut_cons_word hsep, cut_cons_word hsep, ih]

/-- **A `;` joins segments**: those in front of it, and those behind it as if nothing were in
front. -/
theorem segments_append_always {t : Token} (h : t.kind = .separator .always)
    (front back : List Token) :
    segments (front ++ t :: back) = segments front ++ segments back := by
  rw [segments, cut_append_separator h, segments, segments, segmentsOf, segmentsOf, segmentsOf,
    ← List.filterMap_append, List.cons_append]

/-! ### The separator in front -/

/-- The last separator among some tokens. -/
def lastSeparator? (tokens : List Token) : Option Separator :=
  (tokens.filterMap fun t => match t.kind with
    | .separator which => some which
    | _ => none).getLast?

/-- **The nearest separator in front of byte `pos`** of a line with these tokens. -/
def nearestSeparator? (tokens : List Token) (pos : Nat) : Option Separator :=
  lastSeparator? (tokens.filter fun t => decide (t.span.stop ≤ pos))

theorem lastSeparator?_cons_separator {t : Token} {which : Separator}
    (h : t.kind = .separator which) (rest : List Token) :
    lastSeparator? (t :: rest) = some ((lastSeparator? rest).getD which) := by
  rw [lastSeparator?, lastSeparator?, List.filterMap_cons_some (b := which) (by rw [h]),
    List.getLast?_cons]

theorem lastSeparator?_cons_word {t : Token} (h : t.kind.isSeparator = false)
    (rest : List Token) : lastSeparator? (t :: rest) = lastSeparator? rest := by
  rw [lastSeparator?, List.filterMap_cons_none, lastSeparator?]
  cases hk : t.kind with
  | separator which => simp [hk, Token.Kind.isSeparator] at h
  | _ => rfl

/-- A separator in the middle hides those in front of it. -/
theorem lastSeparator?_append_separator {t : Token} {which : Separator}
    (h : t.kind = .separator which) (front back : List Token) :
    lastSeparator? (front ++ t :: back) = some ((lastSeparator? back).getD which) := by
  induction front with
  | nil => exact lastSeparator?_cons_separator h back
  | cons u front ih =>
    rw [List.cons_append]
    cases hsep : u.kind.isSeparator with
    | true =>
      obtain ⟨other, hother⟩ := exists_eq_separator hsep
      rw [lastSeparator?_cons_separator hother, ih]
      rfl
    | false => rw [lastSeparator?_cons_word hsep, ih]

/-- **A segment stands in one piece**, and follows the last separator in front of its name, or the
one that counts for the first run. -/
theorem exists_append_of_mem_segmentsOf {tokens : List Token} {s : Segment} (after : Separator)
    (h : s ∈ segmentsOf ((after, (cut tokens).1) :: (cut tokens).2)) :
    ∃ front back, tokens = front ++ (s.tokens ++ back) ∧
      (lastSeparator? front).getD after = s.after := by
  induction tokens generalizing after with
  | nil => exact absurd h List.not_mem_nil
  | cons t rest ih =>
    cases hsep : t.kind.isSeparator with
    | true =>
      obtain ⟨which, hwhich⟩ := exists_eq_separator hsep
      rw [cut_cons_separator hwhich, segmentsOf_cons_nil] at h
      obtain ⟨front, back, rfl, hafter⟩ := ih which h
      refine ⟨t :: front, back, rfl, ?_⟩
      rw [lastSeparator?_cons_separator hwhich]
      exact hafter
    | false =>
      rw [cut_cons_word hsep, segmentsOf_cons_cons] at h
      rcases List.mem_cons.1 h with rfl | hrest
      · obtain ⟨back, hback⟩ := exists_append_cut rest
        exact ⟨[], back, congrArg (t :: ·) hback, rfl⟩
      · -- a later segment is one of the rest, whatever its first run makes
        have hmem : s ∈ segmentsOf ((after, (cut rest).1) :: (cut rest).2) := by
          cases hrun : (cut rest).1 with
          | nil => exact hrest
          | cons name more => exact List.mem_cons_of_mem _ hrest
        obtain ⟨front, back, rfl, hafter⟩ := ih after hmem
        refine ⟨t :: front, back, rfl, ?_⟩
        rw [lastSeparator?_cons_word hsep]
        exact hafter

/-- In front of a token that starts at byte `pos`, tokens in order end before `pos`. -/
theorem nearestSeparator?_append {front back : List Token} {t : Token}
    (h : InOrder (front ++ t :: back)) :
    nearestSeparator? (front ++ t :: back) t.span.start = lastSeparator? front := by
  obtain ⟨-, hrest, hcross⟩ := List.pairwise_append.1 h.ordered
  have hfront : front.filter (fun u => decide (u.span.stop ≤ t.span.start)) = front := by
    refine List.filter_eq_self.2 ?_
    intro u hu
    exact decide_eq_true (hcross u hu t List.mem_cons_self)
  have hback : (t :: back).filter (fun u => decide (u.span.stop ≤ t.span.start)) = [] := by
    refine List.filter_eq_nil_iff.2 ?_
    intro u hu
    -- `t` and what follows it end behind the place where `t` starts
    have hproper := h.proper u (List.mem_append_right front hu)
    have hle : t.span.start ≤ u.span.start := by
      rcases List.mem_cons.1 hu with rfl | hmem
      · exact Nat.le_refl _
      · have hbehind := (List.pairwise_cons.1 hrest).1 u hmem
        have htproper := h.proper t (List.mem_append_right front List.mem_cons_self)
        omega
    rw [decide_eq_true_iff]
    omega
  rw [nearestSeparator?, List.filter_append, hfront, hback, List.append_nil]

/-- **The nearest separator in front of a segment behind a `;`** is the one the segment follows. -/
theorem nearestSeparator?_eq {front back : List Token} {t : Token}
    (h : InOrder (front ++ t :: back)) (ht : t.kind = .separator .always) {s : Segment}
    (hs : s ∈ segments back) :
    nearestSeparator? (front ++ t :: back) s.name.span.start = some s.after := by
  obtain ⟨before, behind, rfl, hafter⟩ := exists_append_of_mem_segmentsOf .always hs
  have hline : front ++ t :: (before ++ (s.tokens ++ behind)) =
      (front ++ t :: before) ++ s.name :: (s.rest ++ behind) := by
    simp only [Segment.tokens, List.append_assoc, List.cons_append]
  rw [hline] at h ⊢
  rw [nearestSeparator?_append h, lastSeparator?_append_separator ht, hafter]

/-! ### The calls of a joined line -/

theorem known_append (front back : List Segment) :
    known lookup (front ++ back) = known lookup front ++ known lookup back :=
  List.filterMap_append

theorem known_cons (s : Segment) (more : List Segment) :
    known lookup (s :: more) =
      ((lookup s.name.text).map fun command => (s, command)).toList ++ known lookup more := by
  rw [known, List.filterMap_cons, known]
  cases lookup s.name.text <;> rfl

/-- The known segments further on. -/
theorem known_map_shift (n : Nat) (segs : List Segment) :
    known lookup (segs.map (Segment.shift n)) =
      (known lookup segs).map fun k => (k.1.shift n, k.2) := by
  induction segs with
  | nil => rfl
  | cons s more ih =>
    have hname : (s.shift n).name.text = s.name.text := rfl
    rw [List.map_cons, known_cons, known_cons, hname, ih]
    cases lookup s.name.text <;> rfl

/-- **The calls of a line that is joined from two**: those of the first, and those of the second,
`n` bytes further on. The first call of the second line is independent if it has none before it, or
if the nearest separator in front of it is a `;`. -/
def joinInvocations (tokens : List Token) (n : Nat) (front : List (Invocation κ)) :
    List (Invocation κ) → List (Invocation κ)
  | [] => front
  | i :: more =>
    let independent := front.isEmpty || nearestSeparator? tokens (i.span.start + n) == some .always
    front ++ { i.shift n with independent } :: more.map (Invocation.shift n)

theorem laterInvocation_shift (n : Nat) (k : Segment × Command κ) :
    laterInvocation (k.1.shift n, k.2) = (laterInvocation k).shift n :=
  k.1.invocation_shift n k.2 _

/-- What segments are called as with others in front of them. -/
theorem invocationsOf_append (front back : List Segment) :
    invocationsOf lookup (front ++ back) =
      invocationsOf lookup front ++
        invocationsFrom lookup (invocationsOf lookup front).isEmpty back := by
  rw [invocationsOf, known_append]
  cases hfront : known lookup front with
  | nil =>
    have hnone : invocationsOf lookup front = [] := by rw [invocationsOf, hfront]
    rw [hnone]
    rfl
  | cons k more =>
    have hsome : invocationsOf lookup front =
        k.1.invocation k.2 true :: more.map laterInvocation := by rw [invocationsOf, hfront]
    rw [hsome, invocationsFrom]
    simp

/-- **The calls of joined segments**, if each of the later ones follows the separator that is
nearest to it. -/
theorem invocationsOf_append_map_shift (tokens : List Token) (n : Nat) {front back : List Segment}
    (hnearest : ∀ s ∈ back,
      nearestSeparator? tokens (s.name.span.start + n) = some s.after) :
    invocationsOf lookup (front ++ back.map (Segment.shift n)) =
      joinInvocations tokens n (invocationsOf lookup front) (invocationsOf lookup back) := by
  rw [invocationsOf_append]
  generalize invocationsOf lookup front = done
  rw [invocationsFrom, invocationsOf, invocationsOf, known_map_shift]
  cases hback : known lookup back with
  | nil => cases hfirst : done.isEmpty <;> simp [joinInvocations]
  | cons k more =>
    obtain ⟨s, command⟩ := k
    have hknown : (s, command) ∈ known lookup back := by
      rw [hback]
      exact List.mem_cons_self
    have hs : s ∈ back := (mem_of_mem_known hknown).1
    have hafter : nearestSeparator? tokens ((s.invocation command true).span.start + n) =
        some s.after := hnearest s hs
    have hindependent :
        (nearestSeparator? tokens ((s.invocation command true).span.start + n) == some .always) =
          (s.after == .always) := by
      rw [hafter]
      cases s.after <;> rfl
    have hlater : (more.map fun k => (k.1.shift n, k.2)).map laterInvocation =
        (more.map laterInvocation).map (Invocation.shift n) := by
      rw [List.map_map, List.map_map]
      exact List.map_congr_left fun k _ => laterInvocation_shift n k
    rw [joinInvocations, hindependent]
    -- the later calls go by their separators in either line; the first one is independent by
    -- itself if no call is in front of it, and otherwise goes by its separator too
    cases done.isEmpty with
    | true =>
      have hhead := s.invocation_shift n command true
      exact congrArg (done ++ ·) (List.cons_eq_cons.2 ⟨hhead, hlater⟩)
    | false =>
      have hhead := laterInvocation_shift n (s, command)
      exact congrArg (done ++ ·) (List.cons_eq_cons.2 ⟨hhead, hlater⟩)

/-! ### The resolution of a joined line -/

theorem names_map_shift (n : Nat) (segs : List Segment) :
    names (segs.map (Segment.shift n)) = names segs := by
  rw [names, names, List.map_map]
  rfl

/-- The segments of a joined line are sound if those of both lines are. -/
theorem not_isFaulty_of_mem_append {n : Nat} {front back : List Segment}
    (hfront : ∀ s ∈ front, ¬ s.IsFaulty lookup) (hback : ∀ s ∈ back, ¬ s.IsFaulty lookup) :
    ∀ s ∈ front ++ back.map (Segment.shift n), ¬ s.IsFaulty lookup := by
  intro s hs
  rcases List.mem_append.1 hs with hs | hs
  · exact hfront s hs
  · obtain ⟨r, hr, rfl⟩ := List.mem_map.1 hs
    rw [Segment.isFaulty_shift_iff]
    exact hback r hr

section Joined

/-- The tokens of two lines joined by a `;`, from those of the lines. -/
def joinTokens (front : Text) (tokens more : List Token) : List Token :=
  tokens ++ separatorAt .always (Text.byteLength front) ::
    more.map (Token.shift (Text.byteLength front + 1))

variable {front back : Text} {tokens more : List Token} (hfront : Token.tokenize front = .ok tokens)
  (hback : Token.tokenize back = .ok more)

include hfront hback

/-- If both lines can be read, so can the joined one. -/
theorem tokenize_append_always :
    Token.tokenize (front ++ ';' :: back) = .ok (joinTokens front tokens more) := by
  have hline := Token.tokenize_append_separator hfront .always back
  rwa [hback] at hline

omit hfront hback in
/-- The segments of the joined line are those of the first, and those of the second further on. -/
theorem segments_joinTokens (front : Text) (tokens more : List Token) :
    segments (joinTokens front tokens more) =
      segments tokens ++ (segments more).map (Segment.shift (Text.byteLength front + 1)) := by
  rw [joinTokens, segments_append_always rfl, segments_map_shift]

/-- **A faulty segment of the first line** is also the first one of the joined line. -/
theorem resolve_append_of_faulty_front {before after : List Segment} {s : Segment} {bad : Argument}
    (hsplit : segments tokens = before ++ s :: after)
    (hbefore : ∀ r ∈ before, ¬ r.IsFaulty lookup) (hs : s.IsFaulty lookup)
    (hbad : Argument.lastMalformed? s.arguments = some bad) :
    (resolve lookup (front ++ ';' :: back)).result = .error (.malformedFlag bad.text bad.span) := by
  have hsegments := segments_joinTokens front tokens more
  rw [hsplit, List.append_assoc, List.cons_append] at hsegments
  rw [(IsResolution.faulty (tokenize_append_always hfront hback) hsegments hbefore hs
    hbad).resolve_eq]

/-- **A faulty segment of the second line** is the first one of the joined line if the first line is
sound. -/
theorem resolve_append_of_faulty_back (hsound : ∀ r ∈ segments tokens, ¬ r.IsFaulty lookup)
    {before after : List Segment} {s : Segment} {bad : Argument}
    (hsplit : segments more = before ++ s :: after)
    (hbefore : ∀ r ∈ before, ¬ r.IsFaulty lookup) (hs : s.IsFaulty lookup)
    (hbad : Argument.lastMalformed? s.arguments = some bad) :
    (resolve lookup (front ++ ';' :: back)).result =
      .error (.malformedFlag bad.text (bad.span.shift (Text.byteLength front + 1))) := by
  have hsegments := segments_joinTokens front tokens more
  rw [hsplit, List.map_append, List.map_cons, ← List.append_assoc] at hsegments
  have hbad' : Argument.lastMalformed? (s.shift (Text.byteLength front + 1)).arguments =
      some (bad.shift (Text.byteLength front + 1)) := by
    rw [Segment.arguments_shift, Argument.lastMalformed?_map_shift, hbad]
    rfl
  rw [(IsResolution.faulty (tokenize_append_always hfront hback) hsegments
    (not_isFaulty_of_mem_append hsound hbefore) ((Segment.isFaulty_shift_iff _ s).2 hs)
    hbad').resolve_eq]
  rfl

/-- **Two sound lines** make a sound line, which looks up the names of both and calls what both
call. -/
theorem resolve_append_of_sound (hsound : ∀ r ∈ segments tokens, ¬ r.IsFaulty lookup)
    (hsound' : ∀ r ∈ segments more, ¬ r.IsFaulty lookup) :
    ∃ joined, resolve lookup (front ++ ';' :: back) =
        ⟨names (segments tokens) ++ names (segments more), .ok joined⟩ ∧
      joined.invocations =
        joinInvocations (joinTokens front tokens more) (Text.byteLength front + 1)
          (invocationsOf lookup (segments tokens)) (invocationsOf lookup (segments more)) := by
  have hline := tokenize_append_always hfront hback
  have hsegments := segments_joinTokens front tokens more
  have hall : ∀ r ∈ segments (joinTokens front tokens more), ¬ r.IsFaulty lookup := by
    rw [hsegments]
    exact not_isFaulty_of_mem_append hsound hsound'
  have hnames : names (segments (joinTokens front tokens more)) =
      names (segments tokens) ++ names (segments more) := by
    rw [hsegments, names, List.map_append, ← names, ← names, names_map_shift]
  have hcalls : invocationsOf lookup (segments (joinTokens front tokens more)) =
      joinInvocations (joinTokens front tokens more) (Text.byteLength front + 1)
        (invocationsOf lookup (segments tokens)) (invocationsOf lookup (segments more)) := by
    rw [hsegments]
    refine invocationsOf_append_map_shift _ _ ?_
    intro s hs
    have hmem : s.shift (Text.byteLength front + 1) ∈
        segments (more.map (Token.shift (Text.byteLength front + 1))) := by
      rw [segments_map_shift]
      exact List.mem_map_of_mem hs
    exact nearestSeparator?_eq (Token.inOrder_of_tokenize hline) rfl hmem
  rw [(isResolution_of_sound hline hall).resolve_eq, hnames]
  exact ⟨_, rfl, hcalls⟩

end Joined

/-- **Two lines joined by a `;`** resolve to what the two lines resolve to, the second further on in
the joined line. -/
theorem parse_append_always (lookup : Lookup κ) {front : Text} {tokens : List Token}
    (hfront : Token.tokenize front = .ok tokens) (back : Text) :
    match Token.tokenize back with
    | .error e =>
      parse lookup (front ++ ';' :: back) = .error (e.shift (Text.byteLength front + 1))
    | .ok _ =>
      match parse lookup front, parse lookup back with
      | .error e, _ => parse lookup (front ++ ';' :: back) = .error e
      | .ok _, .error e =>
        parse lookup (front ++ ';' :: back) = .error (e.shift (Text.byteLength front + 1))
      | .ok first, .ok second =>
        ∃ joined joinedTokens, parse lookup (front ++ ';' :: back) = .ok joined ∧
          (resolve lookup (front ++ ';' :: back)).lookups =
            (resolve lookup front).lookups ++ (resolve lookup back).lookups ∧
          Token.tokenize (front ++ ';' :: back) = .ok joinedTokens ∧
          joined.invocations = joinInvocations joinedTokens (Text.byteLength front + 1)
            first.invocations second.invocations := by
  cases hback : Token.tokenize back with
  | error e =>
    have hline := Token.tokenize_append_separator hfront .always back
    rw [hback, Separator.mark] at hline
    rw [parse, (IsResolution.unreadable hline).resolve_eq]
  | ok more =>
    have hresolveFront := isResolution_resolve lookup front
    have hresolveBack := isResolution_resolve lookup back
    simp only [parse]
    generalize resolve lookup front = r at hresolveFront ⊢
    generalize resolve lookup back = r' at hresolveBack ⊢
    -- the resolution of the first line decides whether that of the second matters
    cases hresolveFront with
    | unreadable h =>
      rw [hfront] at h
      cases h
    | faulty h hsplit hbefore hs hbad =>
      obtain rfl := Except.ok.inj (hfront.symm.trans h)
      exact resolve_append_of_faulty_front hfront hback hsplit hbefore hs hbad
    | sound h hsound hcalls =>
      obtain rfl := Except.ok.inj (hfront.symm.trans h)
      obtain rfl := areCalls_iff.1 hcalls
      cases hresolveBack with
      | unreadable h' =>
        rw [hback] at h'
        cases h'
      | faulty h' hsplit hbefore hs hbad =>
        obtain rfl := Except.ok.inj (hback.symm.trans h')
        exact resolve_append_of_faulty_back hfront hback hsound hsplit hbefore hs hbad
      | sound h' hsound' hcalls' =>
        obtain rfl := Except.ok.inj (hback.symm.trans h')
        obtain rfl := areCalls_iff.1 hcalls'
        obtain ⟨joined, hjoined, hcalls⟩ := resolve_append_of_sound hfront hback hsound hsound'
        rw [hjoined]
        exact ⟨joined, _, rfl, rfl, tokenize_append_always hfront hback, hcalls⟩

/-- A lookup that knows one name. -/
def onlyA : Lookup Unit := fun name => if name = "a" then some (.plain "a" ()) else none

/-- A line with one call, and a segment that is dropped. -/
def earlierLine : Text := "a \"é\" & x"

/-- A line whose only call follows a dropped segment and a `&`. -/
def laterLine : Text := " y & a ?v"

/-- The call of the second line is independent in its own line, and dependent in the joined one. -/
theorem parse_append_always_dependent :
    ∃ tokens first second joined joinedTokens, Token.tokenize earlierLine = .ok tokens ∧
      parse onlyA earlierLine = .ok first ∧ parse onlyA laterLine = .ok second ∧
      parse onlyA (earlierLine ++ ';' :: laterLine) = .ok joined ∧
      joined.invocations = joinInvocations joinedTokens 11 first.invocations second.invocations ∧
      second.invocations.map Invocation.independent = [true] ∧
      joined.invocations.map Invocation.independent = [true, false] := by
  obtain ⟨tokens, hearlier⟩ := exists_eq_ok_of_isOk
    (show (Token.tokenize earlierLine).isOk = true by decide +kernel)
  obtain ⟨more, hlater⟩ := exists_eq_ok_of_isOk
    (show (Token.tokenize laterLine).isOk = true by decide +kernel)
  obtain ⟨first, hfirst⟩ := exists_eq_ok_of_isOk
    (show (parse onlyA earlierLine).isOk = true by decide +kernel)
  obtain ⟨second, hsecond⟩ := exists_eq_ok_of_isOk
    (show (parse onlyA laterLine).isOk = true by decide +kernel)
  have h := parse_append_always onlyA hearlier laterLine
  simp only [hlater, hfirst, hsecond] at h
  obtain ⟨joined, joinedTokens, hjoined, -, -, hcalls⟩ := h
  have hsecondCalls : (parse onlyA laterLine).toOption.map
      (fun c => c.invocations.map Invocation.independent) = some [true] := by decide +kernel
  have hjoinedCalls : (parse onlyA (earlierLine ++ ';' :: laterLine)).toOption.map
      (fun c => c.invocations.map Invocation.independent) = some [true, false] := by decide +kernel
  rw [hsecond] at hsecondCalls
  rw [hjoined] at hjoinedCalls
  exact ⟨tokens, first, second, joined, joinedTokens, hearlier, hfirst, hsecond, hjoined, hcalls,
    Option.some.inj hsecondCalls, Option.some.inj hjoinedCalls⟩

end Chain

end CommandConsole
