import CommandConsole.Proofs.Chain.Segment
import Mathlib.Data.List.Forall2

/-!
# What a line resolves to

`Chain.resolve` goes over the tokens of a line once, with a buffer for the segment it is in, the
separator before it, and a note whether there is an invocation yet. This module says what comes of
it by looking at the segments of the line as a whole (`Chain.IsResolution`):

* a line that cannot be read resolves to the error of the lexer, and no name is looked up;
* a line with a **faulty** segment, one whose name is known and which has a malformed argument,
  resolves to the error of the first such segment, the last malformed argument in it, and the names
  up to and including that segment are looked up;
* every other line resolves to the chain of its known segments, and all names are looked up. What
  the call of a segment is, is said by the shapes of its arguments (`Chain.Segment.IsCall`,
  `Chain.AreCalls`).

`Chain.resolve_eq_iff_isResolution`: this is what `Chain.resolve` gives, and nothing else. Where
only the chain or the error matters, it is read off by `Chain.exists_sound_of_parse` and
`Chain.exists_cause_of_parse`.

The proof goes through `Chain.resolveSegments`, which resolves segment by segment; the buffer is
always the front of the run that `Chain.cut` makes (`Chain.resolveFrom_eq_resolveSegments`). What it
comes to is then read off by induction on the segments, with and without a faulty one.
-/

namespace CommandConsole.Chain

variable {κ : Type}

namespace Segment

/-- From the start of the name to the end of the last token. -/
def span (s : Segment) : Span := across s.name s.rest

/-- **The call that a segment stands for**, once the command of its name is found. -/
def invocation (s : Segment) (command : Command κ) (independent : Bool) : Invocation κ where
  command := command
  arguments := (Argument.positionals s.arguments).map Argument.text
  flags := (∅ : FlagSet).insertAll (Argument.denoted s.arguments)
  independent := independent
  span := s.span

/-- **A faulty segment**: its name is known, and one of its arguments is malformed. -/
def IsFaulty (lookup : Lookup κ) (s : Segment) : Prop :=
  (lookup s.name.text).isSome = true ∧ ∃ a ∈ s.arguments, Argument.IsMalformed a.text

/-- A segment with a known name that is not faulty has no malformed argument. -/
theorem lastMalformed?_eq_none {lookup : Lookup κ} {s : Segment} {command : Command κ}
    (hcommand : lookup s.name.text = some command) (h : ¬ s.IsFaulty lookup) :
    Argument.lastMalformed? s.arguments = none := by
  rw [Argument.lastMalformed?_eq_none_iff]
  intro a ha hmalformed
  exact h ⟨by rw [hcommand]; rfl, a, ha, hmalformed⟩

/-- **What the call of a segment is**, by the shapes of its arguments: the positional ones are the
arguments of the call, and its flags are all names that the others denote. -/
structure IsCall (s : Segment) (command : Command κ) (independent : Bool) (i : Invocation κ) :
    Prop where
  command_eq : i.command = command
  arguments_eq : i.arguments =
    (s.arguments.filter fun a => Argument.IsPositional a.text).map Argument.text
  mem_flags_iff : ∀ name, name ∈ i.flags ↔
    ∃ a ∈ s.arguments, ∃ names, Argument.Denotes a.text names ∧ name ∈ names
  independent_eq : i.independent = independent
  span_eq : i.span = s.span

/-- A segment stands for one call. -/
theorem isCall_iff {s : Segment} {command : Command κ} {independent : Bool} {i : Invocation κ} :
    s.IsCall command independent i ↔ i = s.invocation command independent := by
  constructor
  · intro h
    -- a set of flags is told by its members, whatever order they came in
    have hflags : i.flags = (∅ : FlagSet).insertAll (Argument.denoted s.arguments) := by
      refine FlagSet.ext_mem fun name => ?_
      rw [h.mem_flags_iff, Argument.mem_insertAll_denoted_iff]
    obtain ⟨command', arguments, flags, independent', span⟩ := i
    obtain ⟨rfl, rfl, -, rfl, rfl⟩ := h
    rw [invocation, ← hflags]
    rfl
  · rintro rfl
    exact ⟨rfl, rfl, fun name => Argument.mem_insertAll_denoted_iff, rfl, rfl⟩

end Segment

/-- The names of some segments. -/
def names (segs : List Segment) : List Text := segs.map fun s => s.name.text

/-- The segments whose names are known, each with the command found. -/
def known (lookup : Lookup κ) (segs : List Segment) : List (Segment × Command κ) :=
  segs.filterMap fun s => (lookup s.name.text).map fun command => (s, command)

/-- The call of a segment with others before it: it is independent if the segment follows a `;`. -/
def laterInvocation (k : Segment × Command κ) : Invocation κ :=
  k.1.invocation k.2 (k.1.after == .always)

/-- **The calls that segments stand for**: one for each known segment, in order. The first one is
independent; each of the others is if its segment follows a `;`. -/
def invocationsOf (lookup : Lookup κ) (segs : List Segment) : List (Invocation κ) :=
  match known lookup segs with
  | [] => []
  | k :: more => k.1.invocation k.2 true :: more.map laterInvocation

/-- **What the calls of known segments are**: one for each, in order. The first one is independent;
each of the others is if its segment follows a `;`. -/
inductive AreCalls : List (Segment × Command κ) → List (Invocation κ) → Prop where
  | nil : AreCalls [] []
  | cons {k : Segment × Command κ} {more : List (Segment × Command κ)} {i : Invocation κ}
      {later : List (Invocation κ)} (hfirst : k.1.IsCall k.2 true i)
      (hlater : List.Forall₂ (fun k i => k.1.IsCall k.2 (k.1.after == .always) i) more later) :
      AreCalls (k :: more) (i :: later)

theorem forall₂_isCall_iff {more : List (Segment × Command κ)} {later : List (Invocation κ)} :
    List.Forall₂ (fun k i => k.1.IsCall k.2 (k.1.after == .always) i) more later ↔
      later = more.map laterInvocation := by
  simp only [Segment.isCall_iff]
  rw [eq_comm, ← List.forall₂_eq_eq_eq, List.forall₂_map_left_iff]
  simp only [laterInvocation, eq_comm]

/-- The known segments stand for one list of calls. -/
theorem areCalls_iff {lookup : Lookup κ} {segs : List Segment} {calls : List (Invocation κ)} :
    AreCalls (known lookup segs) calls ↔ calls = invocationsOf lookup segs := by
  rw [invocationsOf]
  generalize known lookup segs = ks
  constructor
  · intro h
    cases h with
    | nil => rfl
    | cons hfirst hlater =>
      rw [Segment.isCall_iff.1 hfirst, forall₂_isCall_iff.1 hlater]
  · rintro rfl
    cases ks with
    | nil => exact .nil
    | cons k more => exact .cons (Segment.isCall_iff.2 rfl) (forall₂_isCall_iff.2 rfl)

/-- From the first token of a line to the last. -/
def lineSpan : List Token → Span
  | [] => ⟨0, 0⟩
  | t :: rest => across t rest

/-- **What a line resolves to**, with the names looked up on the way. -/
inductive IsResolution (lookup : Lookup κ) (line : Text) : Resolved (Chain κ) → Prop where
  /-- The line cannot be read. -/
  | unreadable {e : SyntaxError} (hline : Token.tokenize line = .error e) :
      IsResolution lookup line ⟨[], .error e⟩
  /-- `s` is the first faulty segment, and `bad` its last malformed argument. -/
  | faulty {tokens : List Token} {before after : List Segment} {s : Segment} {bad : Argument}
      (hline : Token.tokenize line = .ok tokens)
      (hsegments : segments tokens = before ++ s :: after)
      (hbefore : ∀ r ∈ before, ¬ r.IsFaulty lookup) (hs : s.IsFaulty lookup)
      (hbad : Argument.lastMalformed? s.arguments = some bad) :
      IsResolution lookup line ⟨names (before ++ [s]), .error (.malformedFlag bad.text bad.span)⟩
  /-- No segment is faulty. -/
  | sound {tokens : List Token} {calls : List (Invocation κ)}
      (hline : Token.tokenize line = .ok tokens)
      (hsound : ∀ s ∈ segments tokens, ¬ s.IsFaulty lookup)
      (hcalls : AreCalls (known lookup (segments tokens)) calls) :
      IsResolution lookup line ⟨names (segments tokens), .ok ⟨calls, lineSpan tokens⟩⟩

/-- A line without a faulty segment resolves to the calls of its segments. -/
theorem isResolution_of_sound {lookup : Lookup κ} {line : Text} {tokens : List Token}
    (hline : Token.tokenize line = .ok tokens)
    (hsound : ∀ s ∈ segments tokens, ¬ s.IsFaulty lookup) :
    IsResolution lookup line ⟨names (segments tokens),
      .ok ⟨invocationsOf lookup (segments tokens), lineSpan tokens⟩⟩ :=
  .sound hline hsound (areCalls_iff.2 rfl)

/-! ### Segment by segment -/

/-- **Resolving segment by segment.** `first` says that there is no invocation yet. -/
def resolveSegments (lookup : Lookup κ) (first : Bool) :
    List Segment → Resolved (List (Invocation κ))
  | [] => .pure []
  | s :: more =>
    (resolveSegment lookup (first || s.after == .always) s.tokens).andThen fun done =>
      (resolveSegments lookup (first && done.isEmpty) more).map (done ++ ·)

/-- Putting nothing in front changes nothing. -/
theorem map_nil_append (r : Resolved (List (Invocation κ))) : r.map ([] ++ ·) = r := by
  obtain ⟨lookups, result⟩ := r
  cases result <;> rfl

/-- Nothing comes behind the last segment. -/
theorem andThen_pure_nil (r : Resolved (List (Invocation κ))) :
    (r.andThen fun done => (Resolved.pure []).map (done ++ ·)) = r := by
  obtain ⟨lookups, result⟩ := r
  cases result with
  | error e => rfl
  | ok done => simp [Resolved.andThen, Resolved.map, Resolved.pure, Except.map]

/-- A run in front is resolved first, as a segment if it is not empty. -/
theorem resolveSegments_segmentsOf_cons (lookup : Lookup κ) (first : Bool) (after : Separator)
    (run : List Token) (runs : List (Separator × List Token)) :
    resolveSegments lookup first (segmentsOf ((after, run) :: runs)) =
      (resolveSegment lookup (first || after == .always) run).andThen fun done =>
        (resolveSegments lookup (first && done.isEmpty) (segmentsOf runs)).map (done ++ ·) := by
  cases run with
  | nil =>
    rw [segmentsOf_cons_nil, resolveSegment]
    show _ = (resolveSegments lookup (first && true) (segmentsOf runs)).map ([] ++ ·)
    rw [map_nil_append, Bool.and_true]
  | cons name rest => rfl

/-- **The buffer is the front of a run.** Going over the tokens with `segment` in the buffer
resolves the segments that are cut when `segment` is put in front of them. -/
theorem resolveFrom_eq_resolveSegments (lookup : Lookup κ) (first : Bool) (last : Separator)
    (segment tokens : List Token) :
    resolveFrom lookup first last segment tokens =
      resolveSegments lookup first
        (segmentsOf ((last, segment ++ (cut tokens).1) :: (cut tokens).2)) := by
  induction tokens generalizing first last segment with
  | nil =>
    rw [resolveSegments_segmentsOf_cons, resolveFrom, cut, List.append_nil]
    exact (andThen_pure_nil _).symm
  | cons t rest ih =>
    cases hsep : t.kind.isSeparator with
    | false =>
      simp only [cut_cons_word hsep]
      rw [List.append_cons, ← ih, resolveFrom]
      cases hk : t.kind <;> simp_all [Token.Kind.isSeparator]
    | true =>
      -- the run ends here, so the buffer is all of it, and the next one starts empty
      obtain ⟨which, hwhich⟩ := exists_eq_separator hsep
      rw [cut_cons_separator hwhich, List.append_nil, resolveSegments_segmentsOf_cons, resolveFrom,
        hwhich]
      simp only [ih, List.nil_append]

/-! ### What the segments resolve to -/

/-- The calls of some segments, the first of which may have others before it. -/
def invocationsFrom (lookup : Lookup κ) (first : Bool) (segs : List Segment) :
    List (Invocation κ) :=
  if first then invocationsOf lookup segs else (known lookup segs).map laterInvocation

/-- **A segment with an unknown name** adds its name to the lookups and nothing else. -/
theorem resolveSegments_cons_of_unknown {lookup : Lookup κ} {s : Segment}
    (h : lookup s.name.text = none) (first : Bool) (more : List Segment) :
    resolveSegments lookup first (s :: more) =
      ⟨s.name.text :: (resolveSegments lookup first more).lookups,
        (resolveSegments lookup first more).result⟩ := by
  have hsegment : resolveSegment lookup (first || s.after == .always) s.tokens =
      ⟨[s.name.text], .ok []⟩ := by
    rw [Segment.tokens, resolveSegment, h]
  rw [resolveSegments, hsegment, Resolved.andThen]
  simp only [List.isEmpty_nil, map_nil_append, Bool.and_true, List.singleton_append]

/-- **A faulty segment** ends the resolution with its last malformed argument. -/
theorem resolveSegments_cons_of_faulty {lookup : Lookup κ} {s : Segment} {bad : Argument}
    (hs : s.IsFaulty lookup) (hbad : Argument.lastMalformed? s.arguments = some bad)
    (first : Bool) (more : List Segment) :
    resolveSegments lookup first (s :: more) =
      ⟨[s.name.text], .error (.malformedFlag bad.text bad.span)⟩ := by
  obtain ⟨command, hcommand⟩ := Option.isSome_iff_exists.1 hs.1
  have hflags : (Argument.extractFlags (s.rest.map Argument.ofToken)).flags = .error bad :=
    Argument.flags_extractFlags_of_malformed hbad
  have hsegment : resolveSegment lookup (first || s.after == .always) s.tokens =
      ⟨[s.name.text], .error (.malformedFlag bad.text bad.span)⟩ := by
    rw [Segment.tokens, resolveSegment, hcommand]
    simp only [hflags]
  rw [resolveSegments, hsegment]
  rfl

/-- **A sound segment with a known name** adds its call, and what comes behind it is no longer
first. -/
theorem resolveSegments_cons_of_known {lookup : Lookup κ} {s : Segment} {command : Command κ}
    (hcommand : lookup s.name.text = some command)
    (hsound : Argument.lastMalformed? s.arguments = none) (hspan : spanOf s.tokens = s.span)
    (first : Bool) (more : List Segment) :
    resolveSegments lookup first (s :: more) =
      ⟨s.name.text :: (resolveSegments lookup false more).lookups,
        (resolveSegments lookup false more).result.map
          (s.invocation command (first || s.after == .always) :: ·)⟩ := by
  have hextract : Argument.extractFlags (s.rest.map Argument.ofToken) =
      ⟨.ok ((∅ : FlagSet).insertAll (Argument.denoted s.arguments)),
        Argument.positionals s.arguments⟩ := Argument.extractFlags_of_sound hsound
  have hsegment : resolveSegment lookup (first || s.after == .always) s.tokens =
      ⟨[s.name.text], .ok [s.invocation command (first || s.after == .always)]⟩ := by
    rw [Segment.tokens] at hspan ⊢
    rw [resolveSegment, hcommand]
    simp only [hextract, hspan]
    rfl
  rw [resolveSegments, hsegment, Resolved.andThen]
  simp only [List.isEmpty_cons, Bool.and_false]
  rfl

/-- **Without a faulty segment** all names are looked up, and all known segments are called. -/
theorem resolveSegments_of_sound {lookup : Lookup κ} {segs : List Segment}
    (hsound : ∀ s ∈ segs, ¬ s.IsFaulty lookup) (hspan : ∀ s ∈ segs, spanOf s.tokens = s.span)
    (first : Bool) :
    resolveSegments lookup first segs = ⟨names segs, .ok (invocationsFrom lookup first segs)⟩ := by
  induction segs generalizing first with
  | nil => cases first <;> rfl
  | cons s more ih =>
    have hmore := fun first => ih (fun r hr => hsound r (List.mem_cons_of_mem s hr))
      (fun r hr => hspan r (List.mem_cons_of_mem s hr)) first
    cases hcommand : lookup s.name.text with
    | none =>
      rw [resolveSegments_cons_of_unknown hcommand, hmore]
      simp [names, invocationsFrom, invocationsOf, known, hcommand]
    | some command =>
      have hnone := Segment.lastMalformed?_eq_none hcommand (hsound s List.mem_cons_self)
      rw [resolveSegments_cons_of_known hcommand hnone (hspan s List.mem_cons_self), hmore]
      cases first <;>
        simp [names, invocationsFrom, invocationsOf, known, hcommand, laterInvocation, Except.map]

/-- **With a faulty segment** the first one decides, and the names up to it are looked up. -/
theorem resolveSegments_of_faulty {lookup : Lookup κ} {before after : List Segment} {s : Segment}
    {bad : Argument} (hbefore : ∀ r ∈ before, ¬ r.IsFaulty lookup) (hs : s.IsFaulty lookup)
    (hbad : Argument.lastMalformed? s.arguments = some bad)
    (hspan : ∀ r ∈ before, spanOf r.tokens = r.span) (first : Bool) :
    resolveSegments lookup first (before ++ s :: after) =
      ⟨names (before ++ [s]), .error (.malformedFlag bad.text bad.span)⟩ := by
  induction before generalizing first with
  | nil => exact resolveSegments_cons_of_faulty hs hbad first after
  | cons r before ih =>
    have hmore := fun first => ih (fun q hq => hbefore q (List.mem_cons_of_mem r hq))
      (fun q hq => hspan q (List.mem_cons_of_mem r hq)) first
    rw [List.cons_append]
    cases hcommand : lookup r.name.text with
    | none =>
      rw [resolveSegments_cons_of_unknown hcommand, hmore]
      rfl
    | some command =>
      have hnone := Segment.lastMalformed?_eq_none hcommand (hbefore r List.mem_cons_self)
      rw [resolveSegments_cons_of_known hcommand hnone (hspan r List.mem_cons_self), hmore]
      rfl

/-! ### The known segments -/

theorem mem_of_mem_known {lookup : Lookup κ} {segs : List Segment} {k : Segment × Command κ}
    (h : k ∈ known lookup segs) : k.1 ∈ segs ∧ lookup k.1.name.text = some k.2 := by
  obtain ⟨s, hs, hmap⟩ := List.mem_filterMap.1 h
  obtain ⟨command, hcommand, rfl⟩ := Option.map_eq_some_iff.1 hmap
  exact ⟨hs, hcommand⟩

/-- What is said of the known segments is said of those whose names are known. -/
theorem map_known {α : Type} {lookup : Lookup κ} {f : Segment × Command κ → α} {g : Segment → α}
    (h : ∀ s command, lookup s.name.text = some command → f (s, command) = g s)
    (segs : List Segment) :
    (known lookup segs).map f = (segs.filter fun s => (lookup s.name.text).isSome).map g := by
  induction segs with
  | nil => rfl
  | cons s more ih =>
    cases hcommand : lookup s.name.text with
    | none => simpa [known, hcommand] using ih
    | some command => simpa [known, hcommand, h s command hcommand] using ih

/-- What is said of the calls, independence apart, is said of these segments. -/
theorem map_invocationsOf {α : Type} {lookup : Lookup κ} {f : Invocation κ → α} {g : Segment → α}
    (h : ∀ s command independent, lookup s.name.text = some command →
      f (s.invocation command independent) = g s) (segs : List Segment) :
    (invocationsOf lookup segs).map f =
      (segs.filter fun s => (lookup s.name.text).isSome).map g := by
  rw [← map_known (f := fun k => f (laterInvocation k)) fun s command => h s command _,
    invocationsOf]
  split
  · next hknown =>
    rw [hknown]
    rfl
  · next k more hknown =>
    -- only the first call may differ, and only in its independence
    have hk : lookup k.1.name.text = some k.2 :=
      (mem_of_mem_known (show k ∈ known lookup segs by simp [hknown])).2
    rw [hknown, List.map_cons, List.map_cons, List.map_map, h _ _ _ hk, laterInvocation,
      h _ _ _ hk]
    rfl

/-- **Every call is that of a segment** whose name is known. -/
theorem exists_segment_of_mem_invocationsOf {lookup : Lookup κ} {segs : List Segment}
    {i : Invocation κ} (h : i ∈ invocationsOf lookup segs) :
    ∃ s ∈ segs, ∃ command independent, lookup s.name.text = some command ∧
      i = s.invocation command independent := by
  have hknown : ∀ k ∈ known lookup segs, k.1 ∈ segs ∧ lookup k.1.name.text = some k.2 :=
    fun _ => mem_of_mem_known
  -- the first call is made from a known segment, and so is every later one
  unfold invocationsOf at h
  split at h
  · exact absurd h List.not_mem_nil
  · next k more hcons =>
    rw [hcons] at hknown
    rcases List.mem_cons.1 h with rfl | h
    · obtain ⟨hmem, hcommand⟩ := hknown k List.mem_cons_self
      exact ⟨k.1, hmem, k.2, true, hcommand, rfl⟩
    · obtain ⟨l, hl, rfl⟩ := List.mem_map.1 h
      obtain ⟨hmem, hcommand⟩ := hknown l (List.mem_cons_of_mem k hl)
      exact ⟨l.1, hmem, l.2, _, hcommand, rfl⟩

/-! ### The resolution of a line -/

/-- In a line, the spans of the segments are those that the resolver computes. -/
theorem spanOf_of_mem_segments {line : Text} {tokens : List Token}
    (hline : Token.tokenize line = .ok tokens) {s : Segment} (hs : s ∈ segments tokens) :
    spanOf s.tokens = s.span :=
  spanOf_eq_across (inOrder_of_mem_segments (Token.inOrder_of_tokenize hline) hs)

/-- The resolver resolves the segments of a line, if the line can be read. -/
theorem resolve_of_tokenize {lookup : Lookup κ} {line : Text} {tokens : List Token}
    (hline : Token.tokenize line = .ok tokens) :
    resolve lookup line = (resolveSegments lookup true (segments tokens)).map
      fun invocations => ⟨invocations, lineSpan tokens⟩ := by
  have hspan : spanOf tokens = lineSpan tokens := by
    cases tokens with
    | nil => rfl
    | cons t rest => exact spanOf_eq_across (Token.inOrder_of_tokenize hline)
  rw [resolve, hline]
  simp only [resolveFrom_eq_resolveSegments, List.nil_append, hspan]
  rfl

/-- The resolver gives what a line resolves to. -/
theorem IsResolution.resolve_eq {lookup : Lookup κ} {line : Text} {r : Resolved (Chain κ)}
    (h : IsResolution lookup line r) : resolve lookup line = r := by
  cases h with
  | unreadable hline => rw [resolve, hline]
  | @faulty tokens before after s bad hline hsegments hbefore hs hbad =>
    have hspan : ∀ r ∈ before, spanOf r.tokens = r.span := fun r hr =>
      spanOf_of_mem_segments hline (by rw [hsegments]; exact List.mem_append_left _ hr)
    rw [resolve_of_tokenize hline, hsegments, resolveSegments_of_faulty hbefore hs hbad hspan]
    rfl
  | sound hline hsound hcalls =>
    rw [areCalls_iff.1 hcalls, resolve_of_tokenize hline,
      resolveSegments_of_sound hsound fun s hs => spanOf_of_mem_segments hline hs]
    rfl

/-- Among some segments there is a first faulty one, or none is faulty. -/
theorem exists_first_faulty (lookup : Lookup κ) (segs : List Segment) :
    (∀ s ∈ segs, ¬ s.IsFaulty lookup) ∨
      ∃ before s after, segs = before ++ s :: after ∧ (∀ r ∈ before, ¬ r.IsFaulty lookup) ∧
        s.IsFaulty lookup := by
  induction segs with
  | nil => exact .inl fun _ h => absurd h List.not_mem_nil
  | cons s more ih =>
    by_cases hs : s.IsFaulty lookup
    · exact .inr ⟨[], s, more, rfl, fun _ h => absurd h List.not_mem_nil, hs⟩
    · rcases ih with hsound | ⟨before, r, after, rfl, hbefore, hr⟩
      · exact .inl (List.forall_mem_cons.2 ⟨hs, hsound⟩)
      · exact .inr ⟨s :: before, r, after, rfl, List.forall_mem_cons.2 ⟨hs, hbefore⟩, hr⟩

/-- Every line resolves to something. -/
theorem exists_isResolution (lookup : Lookup κ) (line : Text) :
    ∃ r, IsResolution lookup line r := by
  cases hline : Token.tokenize line with
  | error e => exact ⟨_, .unreadable hline⟩
  | ok tokens =>
    rcases exists_first_faulty lookup (segments tokens) with
      hsound | ⟨before, s, after, hsegments, hbefore, hs⟩
    · exact ⟨_, isResolution_of_sound hline hsound⟩
    · obtain ⟨bad, hbad⟩ :=
        Option.isSome_iff_exists.1 (Argument.isSome_lastMalformed?_iff.2 hs.2)
      exact ⟨_, .faulty hline hsegments hbefore hs hbad⟩

/-- The resolver gives a resolution of the line. -/
theorem isResolution_resolve (lookup : Lookup κ) (line : Text) :
    IsResolution lookup line (resolve lookup line) := by
  obtain ⟨r, hr⟩ := exists_isResolution lookup line
  rwa [hr.resolve_eq]

theorem exists_eq_ok_of_isOk {α : Type} {r : Except SyntaxError α} (h : r.isOk = true) :
    ∃ a, r = .ok a := by
  cases r with
  | error e => cases h
  | ok a => exact ⟨a, rfl⟩

/-- **A line that has a chain** can be read, and none of its segments is faulty. -/
theorem exists_sound_of_parse {lookup : Lookup κ} {line : Text} {chain : Chain κ}
    (h : parse lookup line = .ok chain) :
    ∃ tokens, Token.tokenize line = .ok tokens ∧ (∀ s ∈ segments tokens, ¬ s.IsFaulty lookup) ∧
      chain = ⟨invocationsOf lookup (segments tokens), lineSpan tokens⟩ := by
  have hresolution := isResolution_resolve lookup line
  unfold parse at h
  -- of the three kinds of resolution, one has a chain
  generalize resolve lookup line = r at h hresolution
  cases hresolution with
  | unreadable => cases h
  | faulty => cases h
  | @sound tokens calls hline hsound hcalls =>
    cases h
    exact ⟨tokens, hline, hsound, by rw [areCalls_iff.1 hcalls]⟩

/-- **The first call of a line is independent.** -/
theorem independent_of_head? {lookup : Lookup κ} {line : Text} {chain : Chain κ}
    (h : parse lookup line = .ok chain) {i : Invocation κ}
    (hi : chain.invocations.head? = some i) : i.independent = true := by
  obtain ⟨tokens, -, -, rfl⟩ := exists_sound_of_parse h
  unfold invocationsOf at hi
  split at hi
  · cases hi
  · cases hi
    rfl

/-- **A line that has an error** cannot be read, or has a faulty segment. -/
theorem exists_cause_of_parse {lookup : Lookup κ} {line : Text} {e : SyntaxError}
    (h : parse lookup line = .error e) :
    Token.tokenize line = .error e ∨ ∃ tokens s bad, Token.tokenize line = .ok tokens ∧
      s ∈ segments tokens ∧ s.IsFaulty lookup ∧
      Argument.lastMalformed? s.arguments = some bad ∧ e = .malformedFlag bad.text bad.span := by
  have hresolution := isResolution_resolve lookup line
  unfold parse at h
  -- the other two have an error
  generalize resolve lookup line = r at h hresolution
  cases hresolution with
  | unreadable hline =>
    cases h
    exact .inl hline
  | @faulty tokens before after s bad hline hsegments hbefore hs hbad =>
    cases h
    have hmem : s ∈ segments tokens := by
      rw [hsegments]
      exact List.mem_append_right before List.mem_cons_self
    exact .inr ⟨tokens, s, bad, hline, hmem, hs, hbad, rfl⟩
  | sound => cases h

end CommandConsole.Chain
