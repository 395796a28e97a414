import CommandConsole.Proofs.Chain.Joining
import CommandConsole.Proofs.Token.Excerpt

/-!
# A call is given by its span

The spans of the calls of a line are parts of it that do not overlap, in the order of the calls. And
such a part is all there is to know of a call: taken as a line of its own, it resolves to this one
call, with the same command, arguments and flags. Only where the call stands is new, and that
nothing comes before it, so that it is independent (`Invocation.alone`).

The span of a call reaches to the last token of its segment, also where that token is a flag, which
is no argument in the end. So the part of the line is the whole segment, and reads as its tokens
(`Chain.exists_excerpt_of_segment`), and these are cut into one segment again.

`Chain.parse_slice` is the statement.
-/

namespace CommandConsole

open Token (InOrder)

/-- **The call as the only one of its line**, which is `length` bytes long. -/
def Invocation.alone {κ : Type} (length : Nat) (i : Invocation κ) : Invocation κ :=
  { i with independent := true, span := ⟨0, length⟩ }

namespace Chain

variable {κ : Type} {lookup : Lookup κ}

/-! ### Where the segments stand -/

/-- Tokens in order stand inside the span across them. -/
theorem inside_across {t u : Token} {rest : List Token} (h : InOrder (t :: rest))
    (hu : u ∈ t :: rest) :
    (across t rest).start ≤ u.span.start ∧ u.span.stop ≤ (across t rest).stop := by
  induction rest generalizing t u with
  | nil =>
    rw [List.mem_singleton.1 hu]
    exact ⟨Nat.le_refl _, Nat.le_refl _⟩
  | cons v rest ih =>
    have hproper := h.proper t List.mem_cons_self
    have hnext := (List.pairwise_cons.1 h.ordered).1 v List.mem_cons_self
    have hmore := h.sublist (List.sublist_cons_self t (v :: rest))
    have hstop : (across t (v :: rest)).stop = (across v rest).stop := by
      rw [across, List.getLastD_cons]
      rfl
    have hstart : (across t (v :: rest)).start = t.span.start := rfl
    rw [hstop, hstart]
    rcases List.mem_cons.1 hu with rfl | hu
    · -- the token in front ends before the next one does
      have hv := (ih hmore List.mem_cons_self).2
      have hvproper := hmore.proper v List.mem_cons_self
      exact ⟨Nat.le_refl _, by omega⟩
    · obtain ⟨hle, hle'⟩ := ih hmore hu
      have hv : (across v rest).start = v.span.start := rfl
      exact ⟨by omega, hle'⟩

/-- The last token of a segment, whose end is the end of the segment. -/
theorem Segment.exists_last (s : Segment) : ∃ u ∈ s.tokens, s.span.stop = u.span.stop :=
  ⟨s.rest.getLastD s.name, List.getLastD_mem_cons, rfl⟩

/-- A segment takes up some of the line. -/
theorem Segment.start_lt_stop {s : Segment} (h : InOrder s.tokens) :
    s.span.start < s.span.stop := by
  have hproper := h.proper s.name List.mem_cons_self
  have hinside := (inside_across h List.mem_cons_self).2
  exact Nat.lt_of_lt_of_le hproper hinside

/-- **The segments of a line** do not overlap, and stand in order. -/
theorem pairwise_segments {tokens : List Token} (h : InOrder tokens) :
    (segments tokens).Pairwise fun r s =>
      r.span.start < s.span.start ∧ r.span.stop ≤ s.span.start := by
  have hall : ((segments tokens).flatMap Segment.tokens).Pairwise
      fun t u => t.span.stop ≤ u.span.start := by
    rw [flatMap_segments]
    exact (h.sublist List.filter_sublist).ordered
  refine (List.pairwise_flatMap.1 hall).2.imp_of_mem ?_
  intro r s hr hs hrs
  obtain ⟨u, hu, hstop⟩ := r.exists_last
  have hlt := Segment.start_lt_stop (inOrder_of_mem_segments h hr)
  have hle : u.span.stop ≤ s.span.start := hrs u hu s.name List.mem_cons_self
  exact ⟨by omega, by omega⟩

/-- The calls are those of the segments with a known name, and stand where these do. -/
theorem pairwise_invocationsOf {tokens : List Token} (h : InOrder tokens) :
    (invocationsOf lookup (segments tokens)).Pairwise fun i j =>
      i.span.start < j.span.start ∧ i.span.stop ≤ j.span.start := by
  have hspans : (invocationsOf lookup (segments tokens)).map Invocation.span =
      ((segments tokens).filter fun s => (lookup s.name.text).isSome).map Segment.span :=
    map_invocationsOf (fun _ _ _ _ => rfl) (segments tokens)
  have hall := (pairwise_segments h).sublist
    (List.filter_sublist (p := fun s => (lookup s.name.text).isSome))
  have hmapped : (((segments tokens).filter fun s =>
      (lookup s.name.text).isSome).map Segment.span).Pairwise
        fun a b => a.start < b.start ∧ a.stop ≤ b.start := List.pairwise_map.2 hall
  rw [← hspans] at hmapped
  exact List.pairwise_map.1 hmapped

/-- A segment stands inside the span of the line. -/
theorem inside_lineSpan {tokens : List Token} (h : InOrder tokens) {s : Segment}
    (hs : s ∈ segments tokens) :
    (lineSpan tokens).start ≤ s.span.start ∧ s.span.stop ≤ (lineSpan tokens).stop := by
  have hmem : ∀ u ∈ s.tokens, u ∈ tokens := by
    intro u hu
    exact (mem_of_mem_segments hs hu).1
  have hname := hmem s.name List.mem_cons_self
  obtain ⟨u, hu, hstop⟩ := s.exists_last
  rw [hstop]
  cases tokens with
  | nil => exact absurd hname List.not_mem_nil
  | cons t rest => exact ⟨(inside_across h hname).1, (inside_across h (hmem u hu)).2⟩

/-! ### A segment as a line of its own -/

/-- **A segment is cut out of its line**: the part at its span reads as one segment, and this
segment, moved to where the part stands, is the one that was cut out. -/
theorem exists_excerpt_of_segment {line : Text} {tokens : List Token}
    (hline : Token.tokenize line = .ok tokens) {s : Segment} (hs : s ∈ segments tokens) :
    ∃ before source after excerpt r, line = before ++ (source ++ after) ∧
      s.span = ⟨Text.byteLength before, Text.byteLength before + Text.byteLength source⟩ ∧
      Token.tokenize source = .ok excerpt ∧ segments excerpt = [r] ∧ lineSpan excerpt = r.span ∧
      r.shift (Text.byteLength before) = { s with after := .always } := by
  obtain ⟨front, back, htokens, -⟩ := exists_append_of_mem_segmentsOf .always hs
  rw [htokens] at hline
  obtain ⟨before, source, after, excerpt, rfl, hstart, hstop, hsource, hshift⟩ :=
    Token.exists_excerpt (t := s.name) hline
  cases excerpt with
  | nil => cases hshift
  | cons name rest =>
    obtain ⟨hname, hrest⟩ := List.cons.inj hshift
    refine ⟨before, source, after, name :: rest, ⟨.always, name, rest⟩, rfl, ?_, hsource, ?_, rfl,
      ?_⟩
    · rw [hstart] at hstop ⊢
      rw [hstop]
      rfl
    · apply segments_of_words
      intro t ht
      have hmem : t.shift (Text.byteLength before) ∈ s.tokens := by
        rw [Segment.tokens, ← hshift]
        exact List.mem_map_of_mem ht
      have hkind : (t.shift (Text.byteLength before)).kind.isSeparator = false :=
        (mem_of_mem_segments hs hmem).2
      exact hkind
    · rw [Segment.shift, hname, hrest]

/-- A line of one segment resolves to its call. -/
theorem parse_of_segments_singleton {source : Text} {excerpt : List Token} {r : Segment}
    {command : Command κ} (hsource : Token.tokenize source = .ok excerpt)
    (hsegments : segments excerpt = [r]) (hcommand : lookup r.name.text = some command)
    (hsound : ¬ r.IsFaulty lookup) :
    parse lookup source = .ok ⟨[r.invocation command true], lineSpan excerpt⟩ := by
  have hall : ∀ q ∈ segments excerpt, ¬ q.IsFaulty lookup := by
    intro q hq
    rw [hsegments, List.mem_singleton] at hq
    rwa [hq]
  have hcalls : invocationsOf lookup [r] = [r.invocation command true] := by
    rw [invocationsOf, known, List.filterMap_cons, hcommand]
    rfl
  rw [parse, (isResolution_of_sound hsource hall).resolve_eq, hsegments, hcalls]

/-- Moved to the start of a line of its own, a segment stands for its call alone. -/
theorem invocation_eq_alone {r s : Segment} {n length : Nat}
    (hshift : r.shift n = { s with after := .always }) (hspan : s.span = ⟨n, n + length⟩)
    (command : Command κ) (independent : Bool) :
    r.invocation command true = (s.invocation command independent).alone length ∧
      r.span = ⟨0, length⟩ := by
  have hargs : r.arguments.map (Argument.shift n) = s.arguments := by
    rw [← Segment.arguments_shift, hshift]
    rfl
  have hmoved : r.span.shift n = ⟨n, n + length⟩ := by
    rw [← Segment.span_shift, hshift]
    exact hspan
  have hrspan : r.span = ⟨0, length⟩ := by
    obtain ⟨hstart, hstop⟩ := Span.mk.inj hmoved
    have hzero : r.span.start = 0 := by omega
    have hlength : r.span.stop = length := by omega
    rw [← hzero, ← hlength]
  refine ⟨?_, hrspan⟩
  simp only [Segment.invocation, Invocation.alone, hrspan, ← hargs,
    Argument.positionals_map_shift, Argument.denoted_map_shift]

/-- **A call is given by its span.** The spans of the calls of a line are parts of the line that are
not empty, in order, without overlap, and inside the span of the chain. Each of these parts
resolves, as a line of its own, to the one call that it was the span of. -/
theorem parse_slice {line : Text} {chain : Chain κ} (h : parse lookup line = .ok chain) :
    (∀ i ∈ chain.invocations, i.span.start < i.span.stop ∧
      Text.IsBoundary line i.span.start ∧ Text.IsBoundary line i.span.stop ∧
      chain.span.start ≤ i.span.start ∧ i.span.stop ≤ chain.span.stop) ∧
    (chain.invocations.Pairwise fun i j =>
      i.span.start < j.span.start ∧ i.span.stop ≤ j.span.start) ∧
    ∀ i ∈ chain.invocations, ∃ source,
      Text.slice? line i.span.start i.span.stop = some source ∧
      parse lookup source =
        .ok ⟨[i.alone (Text.byteLength source)], ⟨0, Text.byteLength source⟩⟩ := by
  obtain ⟨tokens, hline, hsound, rfl⟩ := exists_sound_of_parse h
  have horder := Token.inOrder_of_tokenize hline
  refine ⟨?_, pairwise_invocationsOf horder, ?_⟩
  · intro i hi
    obtain ⟨s, hs, command, independent, -, rfl⟩ := exists_segment_of_mem_invocationsOf hi
    obtain ⟨before, source, after, -, -, rfl, hspan, -⟩ := exists_excerpt_of_segment hline hs
    have hlt := Segment.start_lt_stop (inOrder_of_mem_segments horder hs)
    refine ⟨hlt, ?_, ?_, inside_lineSpan horder hs⟩
    · show Text.IsBoundary _ s.span.start
      rw [hspan]
      exact ⟨before, source ++ after, rfl, rfl⟩
    · show Text.IsBoundary _ s.span.stop
      rw [hspan]
      exact ⟨before ++ source, after, by simp, Text.byteLength_append before source⟩
  · intro i hi
    obtain ⟨s, hs, command, independent, hcommand, rfl⟩ := exists_segment_of_mem_invocationsOf hi
    obtain ⟨before, source, after, excerpt, r, rfl, hspan, hsource, hsegments, hlineSpan, hshift⟩ :=
      exists_excerpt_of_segment hline hs
    obtain ⟨hcall, hrspan⟩ := invocation_eq_alone hshift hspan command independent
    -- the name and the arguments are the same texts, so the segment is as good as it was
    have hname : r.name.text = s.name.text := by
      show (r.shift (Text.byteLength before)).name.text = s.name.text
      rw [hshift]
    have hfaulty : ¬ r.IsFaulty lookup := by
      rw [← Segment.isFaulty_shift_iff (Text.byteLength before), hshift]
      exact hsound s hs
    refine ⟨source, ?_, ?_⟩
    · show Text.slice? _ s.span.start s.span.stop = _
      rw [hspan]
      exact Text.slice?_middle rfl rfl
    · rw [← hname] at hcommand
      rw [parse_of_segments_singleton hsource hsegments hcommand hfaulty, hcall, hlineSpan, hrspan]

/-- A line whose first call has a quoted separator and ends with a flag. -/
def flagAtEnd : Text := " x; a \"é;\" ?v & a"

theorem parse_slice_flagAtEnd :
    ∃ chain i, parse onlyA flagAtEnd = .ok chain ∧ i ∈ chain.invocations ∧ i.span = ⟨4, 14⟩ ∧
      parse onlyA "a \"é;\" ?v" = .ok ⟨[i.alone 10], ⟨0, 10⟩⟩ := by
  obtain ⟨chain, hchain⟩ := exists_eq_ok_of_isOk
    (show (parse onlyA flagAtEnd).isOk = true by decide +kernel)
  have hspans : (parse onlyA flagAtEnd).toOption.map (fun c => c.invocations.map Invocation.span) =
      some [⟨4, 14⟩, ⟨17, 18⟩] := by decide +kernel
  rw [hchain] at hspans
  have hall : chain.invocations.map Invocation.span = [⟨4, 14⟩, ⟨17, 18⟩] := Option.some.inj hspans
  have hfirst : (⟨4, 14⟩ : Span) ∈ chain.invocations.map Invocation.span := by
    rw [hall]
    exact List.mem_cons_self
  obtain ⟨i, hi, hspan⟩ := List.mem_map.1 hfirst
  obtain ⟨source, hslice, hparse⟩ := (parse_slice hchain).2.2 i hi
  have hpart : Text.slice? flagAtEnd 4 14 = some "a \"é;\" ?v" := by decide +kernel
  rw [hspan, hpart] at hslice
  obtain rfl := Option.some.inj hslice
  exact ⟨chain, i, hchain, hi, hspan, hparse⟩

end Chain

end CommandConsole
