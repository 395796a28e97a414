import CommandConsole.Chain
import CommandConsole.Proofs.Argument.Extraction
import CommandConsole.Proofs.Token.Reading

/-!
# Segments

The separators cut the tokens of a line into runs. A run that is not empty is a **segment**: its
first token is the name of a command, the others are arguments, and it remembers the separator it
follows. The first run counts as following a `;`.

* `Chain.cut` cuts at the separators, and `Chain.segments` keeps the runs that are not empty;
* `Chain.flatMap_segments` — the tokens of the segments, in a row, are the tokens of the line that
  are no separators, so that each has its tokens in order (`Chain.inOrder_of_mem_segments`) and no
  separator among them (`Chain.mem_of_mem_segments`);
* `Chain.spanOf_eq_across` — of tokens in order, the least span around the first and the last is
  from the start of the one to the end of the other.
-/

namespace CommandConsole.Chain

/-- **Cutting at the separators**: the tokens in front of the first one, and behind each separator
the tokens up to the next. -/
def cut : List Token → List Token × List (Separator × List Token)
  | [] => ([], [])
  | t :: rest =>
    match t.kind with
    | .separator which => ([], (which, (cut rest).1) :: (cut rest).2)
    | _ => (t :: (cut rest).1, (cut rest).2)

/-- **A segment**: the separator it follows, the name of its command, and the other tokens. -/
structure Segment where
  after : Separator
  name : Token
  rest : List Token

namespace Segment

/-- The segment that a run of tokens is, unless the run is empty. -/
def ofRun? : Separator × List Token → Option Segment
  | (_, []) => none
  | (after, name :: rest) => some ⟨after, name, rest⟩

/-- All tokens of a segment. -/
def tokens (s : Segment) : List Token := s.name :: s.rest

/-- The arguments, flags included. -/
def arguments (s : Segment) : List Argument := s.rest.map Argument.ofToken

end Segment

/-- The segments that some runs of tokens make. -/
def segmentsOf (runs : List (Separator × List Token)) : List Segment :=
  runs.filterMap Segment.ofRun?

/-- **The segments of a line**, in order. -/
def segments (tokens : List Token) : List Segment :=
  segmentsOf ((.always, (cut tokens).1) :: (cut tokens).2)

/-! ### The tokens of the segments -/

theorem exists_eq_separator {t : Token} (h : t.kind.isSeparator = true) :
    ∃ which, t.kind = .separator which := by
  cases hk : t.kind with
  | separator which => exact ⟨which, rfl⟩
  | _ => simp [hk, Token.Kind.isSeparator] at h

theorem cut_cons_separator {t : Token} {which : Separator} (h : t.kind = .separator which)
    (rest : List Token) : cut (t :: rest) = ([], (which, (cut rest).1) :: (cut rest).2) := by
  rw [cut, h]

theorem cut_cons_word {t : Token} (h : t.kind.isSeparator = false) (rest : List Token) :
    cut (t :: rest) = (t :: (cut rest).1, (cut rest).2) := by
  rw [cut]
  cases hk : t.kind <;> simp_all [Token.Kind.isSeparator]

/-- Tokens that are no separators go to the first run. -/
theorem cut_append {tokens : List Token} (h : ∀ t ∈ tokens, t.kind.isSeparator = false)
    (rest : List Token) : cut (tokens ++ rest) = (tokens ++ (cut rest).1, (cut rest).2) := by
  induction tokens with
  | nil => rfl
  | cons t tokens ih =>
    rw [List.cons_append, cut_cons_word (h t List.mem_cons_self),
      ih fun u hu => h u (List.mem_cons_of_mem t hu)]
    rfl

/-- The first run is in front of everything else. -/
theorem exists_append_cut (tokens : List Token) : ∃ back, tokens = (cut tokens).1 ++ back := by
  induction tokens with
  | nil => exact ⟨[], rfl⟩
  | cons t rest ih =>
    cases hsep : t.kind.isSeparator with
    | true =>
      obtain ⟨which, hwhich⟩ := exists_eq_separator hsep
      rw [cut_cons_separator hwhich]
      exact ⟨t :: rest, rfl⟩
    | false =>
      obtain ⟨back, hback⟩ := ih
      rw [cut_cons_word hsep]
      exact ⟨back, congrArg (t :: ·) hback⟩

/-- Tokens that are no separators are one segment, if there are any. -/
theorem segments_of_words {name : Token} {rest : List Token}
    (h : ∀ t ∈ name :: rest, t.kind.isSeparator = false) :
    segments (name :: rest) = [⟨.always, name, rest⟩] := by
  have hcut := cut_append h []
  rw [cut, List.append_nil] at hcut
  rw [segments, hcut]
  rfl

@[simp] theorem segmentsOf_cons_nil (after : Separator) (runs : List (Separator × List Token)) :
    segmentsOf ((after, []) :: runs) = segmentsOf runs := rfl

@[simp] theorem segmentsOf_cons_cons (after : Separator) (name : Token) (rest : List Token)
    (runs : List (Separator × List Token)) :
    segmentsOf ((after, name :: rest) :: runs) = ⟨after, name, rest⟩ :: segmentsOf runs := rfl

/-- A run is a segment or empty. -/
theorem flatMap_segmentsOf (runs : List (Separator × List Token)) :
    (segmentsOf runs).flatMap Segment.tokens = runs.flatMap Prod.snd := by
  induction runs with
  | nil => rfl
  | cons run runs ih =>
    obtain ⟨after, tokens⟩ := run
    cases tokens with
    | nil =>
      rw [segmentsOf_cons_nil, ih]
      rfl
    | cons name rest =>
      rw [segmentsOf_cons_cons, List.flatMap_cons, List.flatMap_cons, ih]
      rfl

/-- Cutting loses the separators only. -/
theorem append_flatMap_cut (tokens : List Token) :
    (cut tokens).1 ++ (cut tokens).2.flatMap Prod.snd =
      tokens.filter fun t => !t.kind.isSeparator := by
  induction tokens with
  | nil => rfl
  | cons t rest ih =>
    cases hsep : t.kind.isSeparator with
    | false =>
      rw [cut_cons_word hsep, List.filter_cons_of_pos (by simp [hsep]), ← ih]
      rfl
    | true =>
      obtain ⟨which, hwhich⟩ := exists_eq_separator hsep
      rw [cut_cons_separator hwhich, List.filter_cons_of_neg (by simp [hsep]), ← ih]
      rfl

/-- **The segments hold the tokens that are no separators**, each once and in order. -/
theorem flatMap_segments (tokens : List Token) :
    (segments tokens).flatMap Segment.tokens = tokens.filter fun t => !t.kind.isSeparator := by
  rw [segments, flatMap_segmentsOf, ← append_flatMap_cut]
  rfl

/-- A token of a segment is a token of the line, and no separator. -/
theorem mem_of_mem_segments {tokens : List Token} {s : Segment} (hs : s ∈ segments tokens)
    {t : Token} (ht : t ∈ s.tokens) : t ∈ tokens ∧ t.kind.isSeparator = false := by
  have hall : t ∈ (segments tokens).flatMap Segment.tokens := List.mem_flatMap.2 ⟨s, hs, ht⟩
  rw [flatMap_segments, List.mem_filter] at hall
  simpa using hall

/-- The tokens of a segment are in order, like those of the line. -/
theorem inOrder_of_mem_segments {tokens : List Token} (h : Token.InOrder tokens) {s : Segment}
    (hs : s ∈ segments tokens) : Token.InOrder s.tokens := by
  have hall : Token.InOrder ((segments tokens).flatMap Segment.tokens) := by
    rw [flatMap_segments]
    exact h.sublist List.filter_sublist
  refine hall.sublist ?_
  rw [List.flatMap_def]
  exact List.sublist_flatten_of_mem (List.mem_map_of_mem hs)

/-- In a line, segments whose names start at one place have one name. -/
theorem name_eq_of_start_eq {tokens : List Token} (h : Token.InOrder tokens) {r s : Segment}
    (hr : r ∈ segments tokens) (hs : s ∈ segments tokens)
    (hstart : r.name.span.start = s.name.span.start) : r.name = s.name := by
  have hname : ∀ q ∈ segments tokens, q.name ∈ tokens := by
    intro q hq
    exact (mem_of_mem_segments hq List.mem_cons_self).1
  exact h.eq_of_start_eq (hname r hr) (hname s hs) hstart

/-! ### Spans across tokens -/

/-- **From the start of the first token to the end of the last**; `rest` are the tokens behind the
first. -/
def across (t : Token) (rest : List Token) : Span :=
  ⟨t.span.start, (rest.getLastD t).span.stop⟩

/-- The least span around the first and the last token is the span across all. -/
theorem spanOf_eq_across {t : Token} {rest : List Token} (h : Token.InOrder (t :: rest)) :
    spanOf (t :: rest) = across t rest := by
  have hproper := h.proper t List.mem_cons_self
  cases rest with
  | nil => simp [spanOf, across, Span.merge]
  | cons u rest =>
    have hmem : (u :: rest).getLast (List.cons_ne_nil u rest) ∈ u :: rest :=
      List.getLast_mem _
    have hlast := h.proper _ (List.mem_cons_of_mem t hmem)
    have hbehind := (List.pairwise_cons.1 h.ordered).1 _ hmem
    rw [spanOf, List.getLast_cons (List.cons_ne_nil u rest), across,
      ← List.getLast_eq_getLastD (List.cons_ne_nil t _),
      List.getLast_cons (List.cons_ne_nil u rest)]
    simp only [Span.merge, Span.mk.injEq]
    omega

end CommandConsole.Chain
