import CommandConsole.Proofs.Highlight.Painting
import CommandConsole.Proofs.Highlight.Tags

/-!
# Removing the tags from a highlighted line

In rich markup everything from a `<` through the next `>` looks like a tag. `Highlight.stripTags`
removes it all. What the highlighter added is removed, since its tags are tags
(`Highlight.stripTags_tag`). But markup does not escape the line, and a `<` of the line itself is
removed as well, with all that follows it up to the next `>`, which may be part of the line too or
the end of a closing.

So the tags can be removed without loss from some lines and not from others, and the main statement
`Highlight.stripTags_render_eq_iff` says which: those without a `<`. `Highlight.stripTags_render_ne`
is the shortest line with one. For a way back from every highlighted line, see
`Highlight.restore_render`.
-/

namespace CommandConsole.Highlight

variable {known : Text → Bool} {theme : Theme} {atName : Bool}

/-- Removes the tags from the rest of a text; `inTag` says that it starts inside of one. -/
def stripTagsFrom (inTag : Bool) : Text → Text
  | [] => []
  | c :: rest =>
    if inTag then stripTagsFrom (c ≠ '>') rest
    else if c = '<' then stripTagsFrom true rest
    else c :: stripTagsFrom false rest

/-- **Removing the tags**: each stretch from a `<` through the next `>`, or through the end of the
text when there is none. -/
def stripTags (text : Text) : Text := stripTagsFrom false text

/-! ### Tags and text -/

/-- The rest of a tag is removed. -/
theorem stripTagsFrom_true_append {body : Text} (hbody : '>' ∉ body) (rest : Text) :
    stripTagsFrom true (body ++ '>' :: rest) = stripTagsFrom false rest := by
  induction body with
  | nil => rfl
  | cons c body ih =>
    obtain ⟨hc, hbody⟩ := not_or.1 fun h => hbody (List.mem_cons.2 h)
    have hne : c ≠ '>' := fun h => hc h.symm
    rw [List.cons_append, stripTagsFrom, if_pos rfl, decide_eq_true hne, ih hbody]

/-- **A tag is removed.** -/
theorem stripTags_tag {tag : Text} (h : ∃ body, '>' ∉ body ∧ tag = '<' :: (body ++ ['>']))
    (rest : Text) : stripTags (tag ++ rest) = stripTags rest := by
  obtain ⟨body, hbody, rfl⟩ := h
  rw [List.cons_append, List.append_assoc, List.singleton_append, stripTags, stripTagsFrom,
    if_neg (by decide), if_pos rfl, stripTagsFrom_true_append hbody, stripTags]

/-- **A text without a `<` is kept.** -/
theorem stripTags_append {text : Text} (htext : '<' ∉ text) (rest : Text) :
    stripTags (text ++ rest) = text ++ stripTags rest := by
  unfold stripTags
  induction text with
  | nil => rfl
  | cons c text ih =>
    obtain ⟨hc, htext⟩ := not_or.1 fun h => htext (List.mem_cons.2 h)
    rw [List.cons_append, stripTagsFrom, if_neg (by decide), if_neg fun h => hc h.symm, ih htext,
      List.cons_append]

/-- No `<` is left. -/
theorem not_mem_stripTagsFrom (inTag : Bool) (text : Text) : '<' ∉ stripTagsFrom inTag text := by
  induction text generalizing inTag with
  | nil => exact List.not_mem_nil
  | cons c text ih =>
    rw [stripTagsFrom]
    split
    · exact ih _
    · split
      · exact ih true
      · next hc =>
        rw [List.mem_cons, not_or]
        exact ⟨fun h => hc h.symm, ih false⟩

/-! ### Highlighted lines -/

/-- **Painting adds tags only.** -/
theorem stripTags_paint {source : Text} (hsource : '<' ∉ source) (c : Color) (rest : Text) :
    stripTags (Markup.rich.paint c source ++ rest) = source ++ stripTags rest := by
  rw [Markup.rich, Dialect.paint_markup, List.append_assoc, List.append_assoc,
    stripTags_tag (Dialect.exists_opening_eq rfl c), stripTags_append hsource,
    stripTags_tag (Dialect.exists_closing_eq rfl)]

/-- What is shown of a text without a `<` is that text with tags. -/
theorem Shows.stripTags_eq {text out : Text} (h : Shows known theme .rich atName text out)
    (htext : '<' ∉ text) : stripTags out = text := by
  induction h with
  | blank =>
    have hkept := stripTags_append htext []
    rwa [List.append_nil, show stripTags [] = [] from rfl, List.append_nil] at hkept
  | @token atName gap source rest out kind _ _ _ ih =>
    simp only [List.mem_append, not_or] at htext
    obtain ⟨hgap, hsource, hrest⟩ := htext
    rw [stripTags_append hgap]
    refine congrArg (gap ++ ·) ?_
    cases hrole : roleAt known atName kind with
    | none => rw [paintAs, stripTags_append hsource, ih hrest]
    | some role => rw [paintAs, stripTags_paint hsource, ih hrest]

/-- **Removing the tags gives back the lines without a `<`**, and no others. -/
theorem stripTags_render_eq_iff (known : Text → Bool) (theme : Theme) (line : Text) :
    stripTags (render known theme .rich line) = line ↔ '<' ∉ line := by
  constructor
  · intro h
    rw [← h]
    exact not_mem_stripTagsFrom false _
  · exact (shows_render known theme .rich line).stripTags_eq

/-- **Not every line is given back**: of the line `<` nothing is left, since the only `>` behind it
is that of the closing. -/
theorem stripTags_render_ne :
    stripTags (render (fun _ => false) .standard .rich "<") = [] ∧
      stripTags (render (fun _ => false) .standard .rich "<") ≠ "<" := by
  decide +kernel

end CommandConsole.Highlight
