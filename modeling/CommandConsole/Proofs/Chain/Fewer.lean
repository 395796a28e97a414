import CommandConsole.Proofs.Chain.Resolution

/-!
# Resolving a line with fewer commands

A line is resolved with two lookups, one of which has all commands of the other and maybe more
(`Lookup.Extends`). Taking commands away takes away their calls and changes nothing else: a segment
that is dropped leaves no trace in its neighbours, its separator still stands where it stood, and
malformed flags in it do not count any more. Only the first call depends on what is in front of it.
It is independent, whatever separator it follows, so the first of the calls that remain becomes
independent if it was not.

The calls of a line are those of its known segments, one by one, and then the first is made
independent (`Chain.invocationsOf_eq_modifyHead`). With fewer commands some of the known segments
remain (`Chain.known_eq_filter`). Which calls remain is read off the calls themselves, by the token
that each of them starts with (`Chain.isKnownCall`).

Errors go the other way. A segment that is faulty with fewer commands is faulty with more of them,
so the line then fails at this segment or at an earlier one (`Chain.FailsAt.le`). The main
statement, `Chain.parse_fewer`, holds both directions.
-/

namespace CommandConsole

variable {κ : Type}

/-- **A lookup with more commands**: whatever the other one finds, it finds too. -/
def Lookup.Extends (more fewer : Lookup κ) : Prop :=
  ∀ name command, fewer name = some command → more name = some command

/-- The call as the first of its chain. -/
def Invocation.asFirst (i : Invocation κ) : Invocation κ := { i with independent := true }

namespace Chain

variable {lookup more fewer : Lookup κ}

/-! ### The name of a call -/

/-- **The token that names the command of a call**: it starts where the call does. -/
def nameToken? (tokens : List Token) (i : Invocation κ) : Option Token :=
  tokens.find? fun t => t.span.start == i.span.start

/-- Whether a lookup knows the name of a call in a line with these tokens. -/
def isKnownCall (lookup : Lookup κ) (tokens : List Token) (i : Invocation κ) : Bool :=
  (nameToken? tokens i).any fun t => (lookup t.text).isSome

/-- **The calls that remain** if only those commands are left that a lookup knows. -/
def remaining (lookup : Lookup κ) (tokens : List Token) (calls : List (Invocation κ)) :
    List (Invocation κ) :=
  (calls.filter (isKnownCall lookup tokens)).modifyHead Invocation.asFirst

/-- The call of a segment is named by the first token of the segment. -/
theorem nameToken?_invocation {tokens : List Token} (h : Token.InOrder tokens) {s : Segment}
    (hs : s ∈ segments tokens) (command : Command κ) (independent : Bool) :
    nameToken? tokens (s.invocation command independent) = some s.name := by
  have hname : s.name ∈ tokens := (mem_of_mem_segments hs List.mem_cons_self).1
  unfold nameToken?
  cases hfind : tokens.find? (fun t => t.span.start == s.name.span.start) with
  | none => simpa using List.find?_eq_none.1 hfind s.name hname
  | some t =>
    have ht := List.mem_of_find?_eq_some hfind
    have hstart : t.span.start = s.name.span.start := by simpa using List.find?_some hfind
    rw [← h.eq_of_start_eq ht hname hstart]
    exact hfind

theorem isKnownCall_laterInvocation {tokens : List Token} (h : Token.InOrder tokens)
    {k : Segment × Command κ} (hk : k.1 ∈ segments tokens) :
    isKnownCall lookup tokens (laterInvocation k) = (lookup k.1.name.text).isSome := by
  rw [isKnownCall, laterInvocation, nameToken?_invocation h hk, Option.any_some]

/-! ### Fewer calls -/

/-- **With fewer commands** some of the known segments are left. -/
theorem known_eq_filter (h : more.Extends fewer) (segs : List Segment) :
    known fewer segs = (known more segs).filter fun k => (fewer k.1.name.text).isSome := by
  rw [known, known, List.filter_filterMap]
  refine congrArg (List.filterMap · segs) (funext ?_)
  intro s
  cases hfewer : fewer s.name.text with
  | none => cases more s.name.text <;> simp [Option.filter_some, hfewer]
  | some command => simp [Option.filter_some, h _ _ hfewer, hfewer]

/-- The first call is like the others, but independent. -/
theorem invocationsOf_eq_modifyHead (lookup : Lookup κ) (segs : List Segment) :
    invocationsOf lookup segs =
      ((known lookup segs).map laterInvocation).modifyHead Invocation.asFirst := by
  rw [invocationsOf]
  cases known lookup segs with
  | nil => rfl
  | cons k later => rfl

/-- Whether a call remains does not depend on its independence, so it may be made independent before
as well. -/
theorem remaining_modifyHead (lookup : Lookup κ) (tokens : List Token)
    (calls : List (Invocation κ)) :
    remaining lookup tokens (calls.modifyHead Invocation.asFirst) =
      remaining lookup tokens calls := by
  cases calls with
  | nil => rfl
  | cons i later =>
    have hname : isKnownCall lookup tokens i.asFirst = isKnownCall lookup tokens i := rfl
    rw [List.modifyHead_cons, remaining, remaining]
    cases hi : isKnownCall lookup tokens i with
    | true =>
      rw [List.filter_cons_of_pos (hname.trans hi), List.filter_cons_of_pos hi]
      rfl
    | false =>
      rw [List.filter_cons_of_neg (by rw [hname, hi]; exact Bool.false_ne_true),
        List.filter_cons_of_neg (by rw [hi]; exact Bool.false_ne_true)]

/-- **With fewer commands the calls that remain are called**, and no others. -/
theorem invocationsOf_eq_remaining (h : more.Extends fewer) {tokens : List Token}
    (hordered : Token.InOrder tokens) :
    invocationsOf fewer (segments tokens) =
      remaining fewer tokens (invocationsOf more (segments tokens)) := by
  have hcalls : ((known more (segments tokens)).map laterInvocation).filter
        (isKnownCall fewer tokens) =
      (known fewer (segments tokens)).map laterInvocation := by
    rw [List.filter_map, known_eq_filter h]
    refine congrArg (List.map laterInvocation) (List.filter_congr ?_)
    intro k hk
    exact isKnownCall_laterInvocation hordered (mem_of_mem_known hk).1
  calc invocationsOf fewer (segments tokens)
      = ((known fewer (segments tokens)).map laterInvocation).modifyHead Invocation.asFirst :=
        invocationsOf_eq_modifyHead fewer _
    _ = remaining fewer tokens ((known more (segments tokens)).map laterInvocation) := by
        rw [remaining, hcalls]
    _ = remaining fewer tokens (((known more (segments tokens)).map laterInvocation).modifyHead
          Invocation.asFirst) := (remaining_modifyHead fewer tokens _).symm
    _ = remaining fewer tokens (invocationsOf more (segments tokens)) := by
        rw [invocationsOf_eq_modifyHead]

/-! ### Earlier errors -/

/-- **Segments fail at place `n`**: there is the first faulty one, and the error is that of its last
malformed argument. -/
inductive FailsAt (lookup : Lookup κ) : List Segment → Nat → SyntaxError → Prop where
  | intro {before after : List Segment} {s : Segment} {bad : Argument}
      (hbefore : ∀ r ∈ before, ¬ r.IsFaulty lookup) (hs : s.IsFaulty lookup)
      (hbad : Argument.lastMalformed? s.arguments = some bad) :
      FailsAt lookup (before ++ s :: after) before.length (.malformedFlag bad.text bad.span)

/-- A line fails where its segments do. -/
theorem FailsAt.parse_eq {line : Text} {tokens : List Token} {n : Nat} {e : SyntaxError}
    (hline : Token.tokenize line = .ok tokens) (h : FailsAt lookup (segments tokens) n e) :
    parse lookup line = .error e := by
  generalize hsegments : segments tokens = segs at h
  cases h with
  | intro hbefore hs hbad =>
    rw [parse, (IsResolution.faulty hline hsegments hbefore hs hbad).resolve_eq]

theorem exists_failsAt {segs : List Segment} {s : Segment} (hmem : s ∈ segs)
    (hs : s.IsFaulty lookup) : ∃ n e, FailsAt lookup segs n e := by
  rcases exists_first_faulty lookup segs with hsound | ⟨before, r, after, rfl, hbefore, hr⟩
  · exact absurd hs (hsound s hmem)
  · obtain ⟨bad, hbad⟩ := Option.isSome_iff_exists.1 (Argument.isSome_lastMalformed?_iff.2 hr.2)
    exact ⟨_, _, .intro hbefore hr hbad⟩

/-- **An error is one of the lexer**, or there is a place where the segments fail with it. -/
theorem exists_failsAt_of_parse {line : Text} {e : SyntaxError} (h : parse lookup line = .error e) :
    Token.tokenize line = .error e ∨
      ∃ tokens n, Token.tokenize line = .ok tokens ∧ FailsAt lookup (segments tokens) n e := by
  rcases exists_cause_of_parse h with hline | ⟨tokens, s, -, hline, hmem, hs, -, -⟩
  · exact .inl hline
  · obtain ⟨n, e', hfails⟩ := exists_failsAt hmem hs
    rw [hfails.parse_eq hline] at h
    cases h
    exact .inr ⟨tokens, n, hline, hfails⟩

/-- **A faulty segment stays faulty** with more commands. -/
theorem Segment.IsFaulty.mono (h : more.Extends fewer) {s : Segment} (hs : s.IsFaulty fewer) :
    s.IsFaulty more := by
  obtain ⟨command, hcommand⟩ := Option.isSome_iff_exists.1 hs.1
  exact ⟨by rw [h _ _ hcommand]; rfl, hs.2⟩

/-- The first faulty segment is in front of every other one. -/
theorem FailsAt.le_of_isFaulty {segs : List Segment} {n m : Nat} {e : SyntaxError} {s : Segment}
    (h : FailsAt lookup segs m e) (hplace : segs[n]? = some s) (hs : s.IsFaulty lookup) :
    m ≤ n := by
  cases h with
  | @intro before after r bad hbefore hr hbad =>
    by_cases hlt : n < before.length
    · rw [List.getElem?_append_left hlt] at hplace
      exact absurd hs (hbefore s (List.mem_of_getElem? hplace))
    · exact Nat.le_of_not_lt hlt

/-- **With more commands a line fails no later.** -/
theorem FailsAt.le (h : more.Extends fewer) {segs : List Segment} {n m : Nat}
    {e e' : SyntaxError} (hfewer : FailsAt fewer segs n e) (hmore : FailsAt more segs m e') :
    m ≤ n := by
  cases hfewer with
  | @intro before after s bad hbefore hs hbad =>
    refine hmore.le_of_isFaulty ?_ (hs.mono h)
    rw [List.getElem?_append_right (Nat.le_refl _), Nat.sub_self, List.getElem?_cons_zero]

/-- **Taking commands away takes away their calls, and nothing else.** If a line has a chain, it has
one with fewer commands, with the calls that remain and the same span. If it has an error with fewer
commands, it has one with all of them: the same one if the line cannot be read, and otherwise one in
the same segment or in an earlier one. -/
theorem parse_fewer (h : more.Extends fewer) (line : Text) :
    (∀ chain, parse more line = .ok chain → ∃ tokens, Token.tokenize line = .ok tokens ∧
      (∀ i ∈ chain.invocations, ∃ t, nameToken? tokens i = some t ∧
        more t.text = some i.command) ∧
      parse fewer line = .ok ⟨remaining fewer tokens chain.invocations, chain.span⟩) ∧
    ∀ e, parse fewer line = .error e →
      (Token.tokenize line = .error e ∧ parse more line = .error e) ∨
      ∃ tokens n m e', Token.tokenize line = .ok tokens ∧
        FailsAt fewer (segments tokens) n e ∧ FailsAt more (segments tokens) m e' ∧ m ≤ n ∧
        parse more line = .error e' := by
  constructor
  · intro chain hchain
    obtain ⟨tokens, hline, hsound, rfl⟩ := exists_sound_of_parse hchain
    have hordered := Token.inOrder_of_tokenize hline
    refine ⟨tokens, hline, ?_, ?_⟩
    · intro i hi
      obtain ⟨s, hs, command, independent, hcommand, rfl⟩ :=
        exists_segment_of_mem_invocationsOf hi
      exact ⟨s.name, nameToken?_invocation hordered hs command independent, hcommand⟩
    · -- no segment becomes faulty by losing its command
      have hsound' : ∀ s ∈ segments tokens, ¬ s.IsFaulty fewer := by
        intro s hs hfaulty
        exact hsound s hs (hfaulty.mono h)
      rw [parse, (isResolution_of_sound hline hsound').resolve_eq,
        invocationsOf_eq_remaining h hordered]
  · intro e he
    rcases exists_failsAt_of_parse he with hline | ⟨tokens, n, hline, hfewer⟩
    · refine .inl ⟨hline, ?_⟩
      rw [parse, (IsResolution.unreadable hline).resolve_eq]
    · -- the faulty segment is one with more commands, too, though maybe not the first
      obtain ⟨m, e', hmore⟩ : ∃ m e', FailsAt more (segments tokens) m e' := by
        generalize segments tokens = segs at hfewer ⊢
        cases hfewer with
        | intro hbefore hs hbad =>
          exact exists_failsAt (List.mem_append_right _ List.mem_cons_self) (hs.mono h)
      exact .inr ⟨tokens, n, m, e', hline, hfewer, hmore, hfewer.le h hmore, hmore.parse_eq hline⟩

/-- A lookup of two commands. -/
def firstAndSecond : Lookup Nat := fun name =>
  if name = "a" then some (.plain "a" 1) else if name = "b" then some (.plain "b" 2) else none

/-- A lookup of the second one only. -/
def secondOnly : Lookup Nat := fun name => if name = "b" then some (.plain "b" 2) else none

theorem extends_secondOnly : firstAndSecond.Extends secondOnly := by
  intro name command h
  unfold secondOnly at h
  split at h
  · next hname =>
    rw [firstAndSecond, if_neg (by rw [hname]; decide), if_pos hname]
    exact h
  · cases h

/-- A line that calls both, with a segment between them that is always dropped. -/
def sharedLine : Text := "a x; nope ?1 & b \"é\" & b ?n"

/-- A line with a malformed flag for each. -/
def twiceWrong : Text := "a ?1; b ?2 ; b"

/-- Without the first command, the second becomes the first call, and its flag the first error. -/
theorem parse_fewer_secondOnly :
    firstAndSecond.Extends secondOnly ∧
    (∃ chain tokens, parse firstAndSecond sharedLine = .ok chain ∧
      parse secondOnly sharedLine =
        .ok ⟨remaining secondOnly tokens chain.invocations, chain.span⟩ ∧
      chain.invocations.map Invocation.independent = [true, false, false] ∧
      (remaining secondOnly tokens chain.invocations).map Invocation.independent =
        [true, false]) ∧
    ∃ e, parse secondOnly twiceWrong = .error (.malformedFlag "?2" ⟨8, 10⟩) ∧
      parse firstAndSecond twiceWrong = .error e := by
  refine ⟨extends_secondOnly, ?_, ?_⟩
  · obtain ⟨chain, hchain⟩ := exists_eq_ok_of_isOk
      (show (parse firstAndSecond sharedLine).isOk = true by decide +kernel)
    obtain ⟨tokens, -, -, hfewer⟩ := (parse_fewer extends_secondOnly sharedLine).1 chain hchain
    have hall : (parse firstAndSecond sharedLine).toOption.map
        (fun c => c.invocations.map Invocation.independent) = some [true, false, false] := by
      decide +kernel
    have hremaining : (parse secondOnly sharedLine).toOption.map
        (fun c => c.invocations.map Invocation.independent) = some [true, false] := by
      decide +kernel
    rw [hchain] at hall
    rw [hfewer] at hremaining
    exact ⟨chain, tokens, hchain, hfewer, Option.some.inj hall, Option.some.inj hremaining⟩
  · have herror : (match parse secondOnly twiceWrong with
        | .error e => some e
        | .ok _ => none) = some (.malformedFlag "?2" ⟨8, 10⟩) := by decide +kernel
    cases h : parse secondOnly twiceWrong with
    | ok chain =>
      rw [h] at herror
      cases herror
    | error e =>
      rw [h] at herror
      cases herror
      rcases (parse_fewer extends_secondOnly twiceWrong).2 _ h with
        ⟨-, hmore⟩ | ⟨-, -, -, e, -, -, -, -, hmore⟩
      · exact ⟨_, rfl, hmore⟩
      · exact ⟨e, rfl, hmore⟩

end Chain

end CommandConsole
