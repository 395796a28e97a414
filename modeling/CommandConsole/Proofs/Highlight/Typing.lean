import CommandConsole.Proofs.Highlight.Painting
import CommandConsole.Proofs.Token.Finished

/-!
# Highlighting while a line is being typed

A line is highlighted again with every key, and what is done should not flicker. The main statement,
`Highlight.finished_stays`, is about a line and the same line with more text: the finished tokens
stay, in place of an unfinished one there is what may become of it, and the highlighter writes the
same as before up to where the unfinished token starts.

For the tokens this is known (`Token.exists_settled_of_unfinished?`). For the highlighter it rests
on `Highlight.render_append`: what is written for a settled text is written in front of everything.
The role of a token depends on the tokens in front of it and on nothing else
(`Highlight.assign_append`), and the text between two tokens is cut at offsets that are the same in
both lines. One cut does change, the one behind the last token of the settled text. There the gap at
its end grows by the gap in front of the next token (`Highlight.renderFrom_gap`).
-/

namespace CommandConsole.Highlight

open Token (Kind ReadsForgiving Settled finished unfinished?)

variable {known : Text → Bool} {theme : Theme} {markup : Markup}

/-- Whether a name is expected behind some tokens. -/
def expectsNameAfter (atName : Bool) (tokens : List Token) : Bool :=
  tokens.foldl (fun atName t => expectsName atName t.kind) atName

/-- **Roles depend on what is in front only.** -/
theorem assign_append (known : Text → Bool) (atName : Bool) (tokens more : List Token) :
    assign known atName (tokens ++ more) =
      assign known atName tokens ++ assign known (expectsNameAfter atName tokens) more := by
  induction tokens generalizing atName with
  | nil => rfl
  | cons t tokens ih =>
    rw [List.cons_append, assign_cons, assign_cons, ih, List.cons_append, expectsNameAfter,
      expectsNameAfter, List.foldl_cons]

/-- **A gap is written as it is**, in front of whatever is read behind it. -/
theorem renderFrom_gap {before gap text : Text} {tokens : List Token}
    (h : ReadsForgiving (Text.byteLength (before ++ gap)) text tokens) (atName : Bool) :
    renderFrom (before ++ (gap ++ text)) theme markup (Text.byteLength before)
        (assign known atName tokens) =
      gap ++ renderFrom (before ++ (gap ++ text)) theme markup (Text.byteLength (before ++ gap))
        (assign known atName tokens) := by
  cases h with
  | blank =>
    rw [assign, renderFrom_nil, ← List.append_assoc, renderFrom_nil]
  | @token _ start stop gap' source rest kind tokens _ _ hstart hstop _ =>
    -- the two gaps are one in front of the token, and only the cut in front of it differs
    have hboth : Text.slice (before ++ (gap ++ (gap' ++ (source ++ rest))))
        (Text.byteLength before) start = gap ++ gap' := by
      rw [← List.append_assoc gap]
      refine Text.slice_middle rfl ?_
      rw [hstart, Text.byteLength_append, Text.byteLength_append, Nat.add_assoc]
    have hsecond : Text.slice (before ++ (gap ++ (gap' ++ (source ++ rest))))
        (Text.byteLength (before ++ gap)) start = gap' := by
      rw [← List.append_assoc before]
      exact Text.slice_middle rfl hstart
    rw [assign_cons, assignedAt, renderFrom, renderFrom, hboth, hsecond]
    simp only [List.append_assoc]

/-- **What is written for a settled remainder is written in front of everything.** The line is
`before ++ (front ++ back)`, and its first part is done. -/
theorem renderFrom_append {pos : Nat} {front back : Text} {tokens more : List Token}
    (h : ReadsForgiving pos front tokens)
    (hback : ReadsForgiving (pos + Text.byteLength front) back more) {before : Text}
    (hpos : pos = Text.byteLength before) (atName : Bool) :
    renderFrom (before ++ (front ++ back)) theme markup pos
        (assign known atName (tokens ++ more)) =
      renderFrom (before ++ front) theme markup pos (assign known atName tokens) ++
        renderFrom (before ++ (front ++ back)) theme markup (pos + Text.byteLength front)
          (assign known (expectsNameAfter atName tokens) more) := by
  induction h generalizing before atName with
  | @blank pos text hblank =>
    subst hpos
    rw [← Text.byteLength_append] at hback ⊢
    rw [List.nil_append, renderFrom_gap hback, assign, renderFrom_nil]
    rfl
  | @token pos start stop gap source rest kind tokens _ _ hstart hstop _ ih =>
    subst hpos
    have hend : stop = Text.byteLength (before ++ gap ++ source) := by
      rw [hstop, hstart, Text.byteLength_append, Text.byteLength_append]
    have hlength : stop + Text.byteLength rest =
        Text.byteLength before + Text.byteLength (gap ++ (source ++ rest)) := by
      simp only [Text.byteLength_append]
      omega
    have hline : before ++ (gap ++ (source ++ rest) ++ back) =
        before ++ (gap ++ (source ++ (rest ++ back))) := by
      simp only [List.append_assoc]
    have hsame : before ++ (gap ++ (source ++ (rest ++ back))) =
        before ++ gap ++ source ++ (rest ++ back) := by
      simp only [List.append_assoc]
    rw [← hlength] at hback ⊢
    -- both lines are written alike up to the end of this token
    calc renderFrom (before ++ (gap ++ (source ++ rest) ++ back)) theme markup
          (Text.byteLength before) (assign known atName (⟨kind, ⟨start, stop⟩⟩ :: tokens ++ more))
        = gap ++ (paintAs theme markup (roleAt known atName kind) source ++
            renderFrom (before ++ gap ++ source ++ (rest ++ back)) theme markup stop
              (assign known (expectsName atName kind) (tokens ++ more))) := by
          rw [List.cons_append, assign_cons, assignedAt, hline, renderFrom_cons hstart hstop,
            ← hend]
      _ = gap ++ (paintAs theme markup (roleAt known atName kind) source ++
            (renderFrom (before ++ gap ++ source ++ rest) theme markup stop
                (assign known (expectsName atName kind) tokens) ++
              renderFrom (before ++ gap ++ source ++ (rest ++ back)) theme markup
                (stop + Text.byteLength rest)
                (assign known (expectsNameAfter (expectsName atName kind) tokens) more))) := by
          rw [ih hback hend]
      _ = _ := by
          rw [assign_cons, assignedAt, renderFrom_cons hstart hstop, ← hend, hline, hsame]
          simp only [List.append_assoc]
          rfl

/-- **What is written for a settled text is written in front of everything**, and what is written
behind it starts at its end. -/
theorem render_append (known : Text → Bool) (theme : Theme) (markup : Markup) {front back : Text}
    {tokens : List Token} (h : Settled 0 front tokens back) :
    render known theme markup (front ++ back) =
      render known theme markup front ++
        renderFrom (front ++ back) theme markup (Text.byteLength front)
          (assign known (expectsNameAfter true tokens)
            ((Token.tokenizeLossy back).map (Token.shift (Text.byteLength front)))) := by
  have hstart : 0 = Text.byteLength [] := rfl
  have hback := Token.readsForgiving_shift (Text.byteLength front) back
  rw [render_eq_renderFrom, render_eq_renderFrom, roles, roles, h.tokenizeLossy_append,
    Token.tokenizeLossy_of_tokenize h.tokenize_front]
  rw [← Nat.zero_add (Text.byteLength front)] at hback ⊢
  exact renderFrom_append h.reads.readsForgiving hback hstart true

/-- **The unfinished token is written last**, behind what is written for the text in front of it. -/
theorem render_of_unfinished (known : Text → Bool) (theme : Theme) (markup : Markup)
    {front source : Text} {t : Token} {tokens : List Token} (h : Settled 0 front tokens source)
    (htokens : Token.tokenizeLossy (front ++ source) = tokens ++ [t])
    (hspan : t.span = ⟨Text.byteLength front, Text.byteLength (front ++ source)⟩) :
    ∃ a, (roles known (front ++ source)).getLast? = some a ∧ a.token = t ∧
      render known theme markup (front ++ source) = render known theme markup front ++
        paintAs theme markup a.role? (t.span.slice (front ++ source)) := by
  obtain ⟨kind, span⟩ := t
  subst hspan
  refine ⟨assignedAt known (expectsNameAfter true tokens) ⟨kind, _⟩, ?_, rfl, ?_⟩
  · rw [roles, htokens, assign_append, assign_cons, assign]
    exact List.getLast?_concat
  · -- it is the only token behind the settled text, with no gap on either side
    have honly : (Token.tokenizeLossy source).map (Token.shift (Text.byteLength front)) =
        [⟨kind, ⟨Text.byteLength front, Text.byteLength (front ++ source)⟩⟩] := by
      rw [h.tokenizeLossy_append] at htokens
      exact List.append_cancel_left htokens
    rw [render_append known theme markup h, honly, assign_cons, assign, assignedAt]
    refine congrArg (render known theme markup front ++ ·) ?_
    rw [renderFrom, renderFrom, Text.slice_self, Text.slice_self, List.append_nil]
    cases roleAt known (expectsNameAfter true tokens) kind <;> rfl

/-- **What is finished stays**, whatever more is typed. -/
theorem finished_stays (line more : Text) :
    finished line <+: Token.tokenizeLossy (line ++ more) ∧
    match unfinished? line with
    | none => ∀ known theme markup,
      render known theme markup line <+: render known theme markup (line ++ more)
    | some t =>
      (∃ u after, Token.tokenizeLossy (line ++ more) = finished line ++ u :: after ∧
        u.span.start = t.span.start ∧ t.kind.MayBecome u.kind) ∧
      ∀ known theme markup, ∃ shown a, (roles known line).getLast? = some a ∧ a.token = t ∧
        render known theme markup line =
          shown ++ paintAs theme markup a.role? (t.span.slice line) ∧
        shown <+: render known theme markup (line ++ more) := by
  cases hlast : unfinished? line with
  | none =>
    have hsettled := Token.settled_of_unfinished?_eq_none hlast more
    rw [Token.finished_of_none hlast]
    refine ⟨?_, fun known theme markup => ?_⟩
    · rw [hsettled.tokenizeLossy_append]
      exact List.prefix_append _ _
    · rw [render_append known theme markup hsettled]
      exact List.prefix_append _ _
  | some t =>
    obtain ⟨front, source, rfl, hne, hspan, hsettled, hgrows⟩ :=
      Token.exists_settled_of_unfinished? hlast
    have hmore := hsettled.append hne more
    obtain ⟨u, after, hafter, hstart, hbecomes⟩ := hgrows more
    have htokens : Token.tokenizeLossy (front ++ source ++ more) =
        finished (front ++ source) ++ u.shift (Text.byteLength front) ::
          after.map (Token.shift (Text.byteLength front)) := by
      rw [List.append_assoc, hmore.tokenizeLossy_append, hafter]
      rfl
    refine ⟨?_, ⟨_, _, htokens, ?_, hbecomes⟩, fun known theme markup => ?_⟩
    · rw [htokens]
      exact List.prefix_append _ _
    · rw [hspan]
      show u.span.start + Text.byteLength front = Text.byteLength front
      rw [hstart, Nat.zero_add]
    · obtain ⟨a, ha, htoken, hrender⟩ := render_of_unfinished known theme markup hsettled
        (Token.tokenizeLossy_eq_concat hlast) hspan
      refine ⟨render known theme markup front, a, ha, htoken, hrender, ?_⟩
      rw [List.append_assoc, render_append known theme markup hmore]
      exact List.prefix_append _ _

end CommandConsole.Highlight
