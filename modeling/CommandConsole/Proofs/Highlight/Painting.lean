import CommandConsole.Highlight
import CommandConsole.Proofs.Text.Cut
import CommandConsole.Proofs.Token.Forgiving

/-!
# How a line is painted

`Highlight.render` goes over the tokens of a line with a byte offset in hand and cuts the line at
it. `Highlight.Shows` says what comes of it without offsets: a gap is shown as it is, and so is a
separator; any other token is painted in the colour of its role, and what follows is shown behind
it. `Highlight.shows_render`: this is how every line is shown.

The role of a token depends on its kind and on whether a name is expected (`Highlight.roleAt`), and
so does the name that is asked for to find the role (`Highlight.askedAt`). A separator is what makes
the next token a name (`Highlight.expectsName`).

* `Highlight.Shows.leads` — what is shown behind a token could follow it in a line as well: a word
  is ended by what is shown where it was ended by what is read;
* `Highlight.Shows.eq_of_plain` — without colours a line is shown as it is.
-/

namespace CommandConsole.Highlight

open Token (Kind ReadsForgiving EndsWord)

variable {known : Text → Bool} {theme : Theme} {markup : Markup} {atName : Bool}

/-- The role of a token of this kind; `atName` says that a name is expected. -/
def roleAt (known : Text → Bool) (atName : Bool) : Kind → Option Role
  | .separator _ => none
  | .unterminated _ => some .string
  | .word text => some (if atName then nameRole known text else .argument)
  | .quoted text => some (if atName then nameRole known text else .string)

/-- The name that is asked for at a token of this kind, if one is. -/
def askedAt (atName : Bool) : Kind → Option Text
  | .separator _ | .unterminated _ => none
  | .word text | .quoted text => if atName then some text else none

/-- A token with all that is found out about it. -/
def assignedAt (known : Text → Bool) (atName : Bool) (t : Token) : Assigned :=
  ⟨t, roleAt known atName t.kind, askedAt atName t.kind⟩

/-- Whether a name is expected behind a token of this kind. -/
def expectsName (atName : Bool) : Kind → Bool
  | .separator _ => true
  | .unterminated _ => atName
  | .word _ | .quoted _ => false

/-- A run of text in the colour of a role, or as it is. -/
def paintAs (theme : Theme) (markup : Markup) (role? : Option Role) (source : Text) : Text :=
  match role? with
  | none => source
  | some role => markup.paint (theme.color role) source

/-- **How a text is shown.** `Shows known theme markup atName text out` says that `text` is shown as
`out`. -/
inductive Shows (known : Text → Bool) (theme : Theme) (markup : Markup) :
    Bool → Text → Text → Prop where
  /-- Blanks are shown as they are. -/
  | blank {atName : Bool} {text : Text} (hblank : Text.isAllBlank text = true) :
      Shows known theme markup atName text text
  /-- A token is painted, and what is behind it is shown behind it. -/
  | token {atName : Bool} {gap source rest out : Text} {kind : Kind}
      (hgap : Text.isAllBlank gap = true) (hleads : kind.Leads source rest)
      (hrest : Shows known theme markup (expectsName atName kind) rest out) :
      Shows known theme markup atName (gap ++ (source ++ rest))
        (gap ++ (paintAs theme markup (roleAt known atName kind) source ++ out))

/-! ### Rendering follows the rules -/

theorem assign_cons (known : Text → Bool) (atName : Bool) (t : Token) (rest : List Token) :
    assign known atName (t :: rest) =
      assignedAt known atName t :: assign known (expectsName atName t.kind) rest := by
  rw [assign, assignedAt]
  cases t.kind with
  | separator which => rfl
  | unterminated q => rfl
  | word text => cases atName <;> rfl
  | quoted text => cases atName <;> rfl

/-- What is left of a line behind its last token. -/
theorem renderFrom_nil (before text : Text) :
    renderFrom (before ++ text) theme markup (Text.byteLength before) [] = text := by
  rw [renderFrom, Text.slice, Text.slice?_append, Option.getD_some]

/-- The gap in front of a token, the token, and what is behind it. -/
theorem renderFrom_cons {before gap source rest : Text} {kind : Kind} {start stop : Nat}
    (hstart : start = Text.byteLength before + Text.byteLength gap)
    (hstop : stop = start + Text.byteLength source) (role? : Option Role) (asked? : Option Text)
    (more : List Assigned) :
    renderFrom (before ++ (gap ++ (source ++ rest))) theme markup (Text.byteLength before)
        (⟨⟨kind, ⟨start, stop⟩⟩, role?, asked?⟩ :: more) =
      gap ++ (paintAs theme markup role? source ++
        renderFrom (before ++ gap ++ source ++ rest) theme markup
          (Text.byteLength (before ++ gap ++ source)) more) := by
  have hline : before ++ (gap ++ (source ++ rest)) = before ++ gap ++ source ++ rest := by
    simp only [List.append_assoc]
  have hgap : Text.slice (before ++ (gap ++ (source ++ rest))) (Text.byteLength before) start =
      gap := Text.slice_middle rfl hstart
  have hsource : Text.slice (before ++ (gap ++ (source ++ rest))) start stop = source := by
    rw [← List.append_assoc before]
    exact Text.slice_middle (by rw [hstart, Text.byteLength_append]) hstop
  have hend : Text.byteLength (before ++ gap ++ source) = stop := by
    rw [hstop, hstart, Text.byteLength_append, Text.byteLength_append]
  rw [renderFrom, hend, ← hline, Span.slice]
  simp only [hgap, hsource]
  rw [List.append_assoc]
  cases role? <;> rfl

/-- **What is read from a remainder is shown by the rules.** The line is `before ++ text`, and its
first part is done. -/
theorem shows_renderFrom {pos : Nat} {text : Text} {tokens : List Token}
    (h : ReadsForgiving pos text tokens) {before : Text} (hpos : pos = Text.byteLength before)
    (atName : Bool) :
    Shows known theme markup atName text
      (renderFrom (before ++ text) theme markup pos (assign known atName tokens)) := by
  induction h generalizing before atName with
  | blank hblank =>
    rw [hpos, assign, renderFrom_nil]
    exact .blank hblank
  | @token pos start stop gap source rest kind tokens hgap hleads hstart hstop _ ih =>
    subst hpos
    -- with the token behind it, the part that is done ends where the token ends
    have hend : stop = Text.byteLength (before ++ gap ++ source) := by
      rw [hstop, hstart, Text.byteLength_append, Text.byteLength_append]
    rw [assign_cons, assignedAt, renderFrom_cons hstart hstop, ← hend]
    exact .token hgap hleads (ih hend _)

/-- **Every line is shown by the rules.** -/
theorem shows_render (known : Text → Bool) (theme : Theme) (markup : Markup) (line : Text) :
    Shows known theme markup true line (render known theme markup line) := by
  have hstart : 0 = Text.byteLength [] := rfl
  exact shows_renderFrom (Token.readsForgiving_tokenizeLossy line) hstart true

/-! ### What is shown -/

theorem roleAt_separator (known : Text → Bool) (atName : Bool) {kind : Kind}
    (h : kind.isSeparator = true) : roleAt known atName kind = none := by
  cases kind with
  | separator which => rfl
  | _ => cases h

/-- Every token but a separator plays a role. -/
theorem exists_roleAt (known : Text → Bool) (atName : Bool) {kind : Kind}
    (h : kind.isSeparator = false) : ∃ role, roleAt known atName kind = some role := by
  cases kind with
  | separator which => cases h
  | _ => exact ⟨_, rfl⟩

/-- Nothing is shown as nothing. -/
theorem Shows.eq_nil {text out : Text} (h : Shows known theme markup atName text out)
    (htext : text = []) : out = [] := by
  cases h with
  | blank => exact htext
  | token _ hleads _ =>
    -- a token is never written as nothing
    obtain ⟨-, hboth⟩ := List.append_eq_nil_iff.1 htext
    exact absurd (List.append_eq_nil_iff.1 hboth).1 hleads.ne_nil

/-- **What would end a word is shown first.** If the text starts with a character that ends a word,
so does what is shown. -/
theorem Shows.endsWord_head {text out : Text} (h : Shows known theme markup atName text out)
    (hended : ∀ c, text.head? = some c → EndsWord c) : ∀ c, out.head? = some c → EndsWord c := by
  cases h with
  | blank => exact hended
  | @token _ gap source rest out kind hgap hleads hrest =>
    cases gap with
    | cons d gap => exact hended
    | nil =>
      cases hsep : kind.isSeparator with
      | true =>
        -- a separator is shown as it is
        obtain ⟨d, tail, rfl⟩ := List.exists_cons_of_ne_nil hleads.ne_nil
        rw [roleAt_separator known atName hsep]
        exact hended
      | false =>
        -- any other token could not stand here
        obtain ⟨d, tail, rfl, hd⟩ := hleads.not_endsWord_head hsep
        exact absurd (hended d rfl) hd

/-- **What is shown behind a token could follow it.** -/
theorem Shows.leads {kind : Kind} {source rest out : Text}
    (h : Shows known theme markup atName rest out) (hleads : kind.Leads source rest) :
    kind.Leads source out := by
  cases kind with
  | word w => exact ⟨hleads.1, h.endsWord_head hleads.2⟩
  | quoted q => exact ⟨hleads.1, trivial⟩
  | separator which => exact ⟨hleads.1, trivial⟩
  | unterminated q =>
    obtain ⟨hsource, hopen, rfl⟩ := hleads
    exact ⟨hsource, hopen, h.eq_nil rfl⟩

/-- **Without colours** a text is shown as it is. -/
theorem Shows.eq_of_plain {text out : Text} (h : Shows known theme .plain atName text out) :
    out = text := by
  induction h with
  | blank => rfl
  | @token atName gap source rest out kind hgap hleads _ ih =>
    rw [ih]
    cases hrole : roleAt known atName kind with
    | none => rfl
    | some role => rw [paintAs, Markup.paint_plain]

end CommandConsole.Highlight
