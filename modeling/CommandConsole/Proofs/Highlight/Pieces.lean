import CommandConsole.Proofs.Highlight.Painting
import CommandConsole.Proofs.Token.Agreement

/-!
# A highlighted line piece by piece

A highlighted line is the line itself, with something put around some of its tokens. This module
says what, token by token. The gaps between the tokens and the separators are written as they are
in the line. An unterminated string is painted as a string, wherever it stands. Of the other tokens
one that **opens a segment**, because no token or a separator is right in front of it, is painted as
the name of a command, known or unknown; any other is painted as an argument or as a string,
depending on how it is written (`Highlight.colorOf?`).

The highlighter goes through the tokens with a note whether the next one is a name. Only the token
in front matters for this note (`Highlight.assign_eq_zipWith`), with one exception: an unterminated
string does not change the note, although it is no separator. This never shows, since an
unterminated string is the last token of its line.

The highlighter also cuts the line at spans that it makes on the way, and a cut that does not exist
would be written as nothing. The main statement, `Highlight.render_eq_weave`, says that there is no
such cut. `Highlight.render?` is the highlighter with cuts that may be refused, and none is.
-/

namespace CommandConsole.Highlight

open Token (Kind ReadsForgiving gaps gapsFrom weave tokenizeLossy)

variable {known : Text → Bool} {theme : Theme} {markup : Markup}

/-! ### What is written for a token -/

/-- **Whether a token opens a segment**, by the token right in front of it, if there is one. -/
def opensSegment (previous? : Option Token) : Bool :=
  previous?.all fun t => t.kind.isSeparator

/-- **The colour of a token**; a separator has none. -/
def colorOf? (known : Text → Bool) (theme : Theme) (opens : Bool) : Kind → Option Color
  | .separator _ => none
  | .unterminated _ => some theme.string
  | .word text =>
    if opens then if known text then some theme.command else some theme.unknownCommand
    else some theme.argument
  | .quoted text =>
    if opens then if known text then some theme.command else some theme.unknownCommand
    else some theme.string

/-- **What is written for a token**: the part of the line where it stands, painted or as it is. -/
def piece (known : Text → Bool) (theme : Theme) (markup : Markup) (line : Text)
    (previous? : Option Token) (t : Token) : Text :=
  match colorOf? known theme (opensSegment previous?) t.kind with
  | none => t.span.slice line
  | some c => markup.paint c (t.span.slice line)

/-- What is written for some tokens that follow each other, the first of them behind `previous?`. -/
def piecesBehind (known : Text → Bool) (theme : Theme) (markup : Markup) (line : Text)
    (previous? : Option Token) (tokens : List Token) : List Text :=
  List.zipWith (piece known theme markup line) (previous? :: tokens.map some) tokens

/-- **The pieces of a line**, one for each token. -/
def pieces (known : Text → Bool) (theme : Theme) (markup : Markup) (line : Text) : List Text :=
  piecesBehind known theme markup line none (tokenizeLossy line)

/-! ### Roles by the token in front -/

/-- A token with the role that it plays behind `previous?`. -/
def assignBehind (known : Text → Bool) (previous? : Option Token) (t : Token) : Assigned :=
  assignedAt known (opensSegment previous?) t

/-- Colours go by roles. -/
theorem colorOf?_eq_map (known : Text → Bool) (theme : Theme) (opens : Bool) (kind : Kind) :
    colorOf? known theme opens kind = (roleAt known opens kind).map theme.color := by
  cases kind with
  | separator which => rfl
  | unterminated q => rfl
  | word text =>
    cases opens with
    | true =>
      rw [colorOf?, roleAt, nameRole]
      cases known text <;> rfl
    | false => rfl
  | quoted text =>
    cases opens with
    | true =>
      rw [colorOf?, roleAt, nameRole]
      cases known text <;> rfl
    | false => rfl

theorem piece_eq_paintAs (line : Text) (previous? : Option Token) (t : Token) :
    piece known theme markup line previous? t =
      paintAs theme markup (assignBehind known previous? t).role? (t.span.slice line) := by
  rw [piece, colorOf?_eq_map, assignBehind, assignedAt]
  cases roleAt known (opensSegment previous?) t.kind <;> rfl

/-- Behind a token that is no unterminated string, a name is expected if it is a separator. -/
theorem expectsName_eq_opensSegment (atName : Bool) {t : Token}
    (hclosed : ∀ q, t.kind ≠ .unterminated q) :
    expectsName atName t.kind = opensSegment (some t) := by
  rw [opensSegment, Option.all_some]
  cases hkind : t.kind with
  | unterminated q => exact absurd hkind (hclosed q)
  | _ => rfl

/-- **The role of a token depends on the token in front of it**, and on nothing further away. -/
theorem assign_eq_zipWith {pos : Nat} {text : Text} {tokens : List Token}
    (h : ReadsForgiving pos text tokens) (previous? : Option Token) :
    assign known (opensSegment previous?) tokens =
      List.zipWith (assignBehind known) (previous? :: tokens.map some) tokens := by
  induction h generalizing previous? with
  | blank => rfl
  | @token pos start stop gap source rest kind tokens hgap hleads hstart hstop hrest ih =>
    rw [assign_cons, List.map_cons, List.zipWith_cons_cons, ← ih]
    refine congrArg (_ :: ·) ?_
    by_cases hopen : ∃ q, kind = .unterminated q
    · -- behind it there is no token, and so nothing to expect
      obtain ⟨q, rfl⟩ := hopen
      obtain ⟨-, -, rfl⟩ := hleads
      cases tokens with
      | nil => rfl
      | cons t tokens => exact absurd rfl (hrest.ne_nil (List.cons_ne_nil t tokens))
    · have hclosed : ∀ q, kind ≠ .unterminated q := by
        intro q hq
        exact hopen ⟨q, hq⟩
      exact congrArg (assign known · tokens)
        (expectsName_eq_opensSegment (t := ⟨kind, ⟨start, stop⟩⟩) _ hclosed)

/-! ### The line as gaps and pieces -/

/-- Gaps and painted tokens are written in turn. -/
theorem renderFrom_eq_weave (line : Text) (cursor : Nat) (previous? : Option Token)
    (tokens : List Token) :
    renderFrom line theme markup cursor
        (List.zipWith (assignBehind known) (previous? :: tokens.map some) tokens) =
      weave (gapsFrom line cursor tokens)
        (piecesBehind known theme markup line previous? tokens) := by
  induction tokens generalizing cursor previous? with
  | nil => rfl
  | cons t tokens ih =>
    rw [piecesBehind, List.map_cons, List.zipWith_cons_cons, List.zipWith_cons_cons, renderFrom,
      gapsFrom, weave, ← piecesBehind, ← ih, piece_eq_paintAs, List.append_assoc]
    rfl

/-! ### Cuts -/

/-- The cuts that are made from byte `cursor` on, in a line that is `length` bytes long. -/
def cutsFrom (length cursor : Nat) : List Token → List Span
  | [] => [⟨cursor, length⟩]
  | t :: rest => ⟨cursor, t.span.start⟩ :: t.span :: cutsFrom length t.span.stop rest

/-- **The cuts of a line**: the gap in front of each token, the token, and the gap behind the last
one. -/
def cuts (line : Text) : List Span := cutsFrom (Text.byteLength line) 0 (tokenizeLossy line)

/-- Writes the line like `renderFrom`, with cuts that may be refused. -/
def renderFrom? (line : Text) (theme : Theme) (markup : Markup) (cursor : Nat) :
    List Assigned → Option Text
  | [] => Text.slice? line cursor (Text.byteLength line)
  | a :: rest => do
    let gap ← Text.slice? line cursor a.token.span.start
    let source ← Text.slice? line a.token.span.start a.token.span.stop
    let more ← renderFrom? line theme markup a.token.span.stop rest
    some (gap ++ (paintAs theme markup a.role? source ++ more))

/-- **The highlighter with cuts that may be refused**: a cut off the line or off a character
boundary, or with its ends the wrong way round, leaves it without an answer. -/
def render? (known : Text → Bool) (theme : Theme) (markup : Markup) (line : Text) : Option Text :=
  renderFrom? line theme markup 0 (roles known line)

/-- **Every cut is a part of the line.** The line is `before ++ text`, and its first part is
done. -/
theorem slice?_of_mem_cutsFrom {pos : Nat} {text : Text} {tokens : List Token}
    (h : ReadsForgiving pos text tokens) {before : Text} (hpos : pos = Text.byteLength before) :
    ∀ span ∈ cutsFrom (Text.byteLength (before ++ text)) pos tokens,
      Text.slice? (before ++ text) span.start span.stop = some (span.slice (before ++ text)) := by
  induction h generalizing before with
  | @blank pos text hblank =>
    intro span hspan
    rw [cutsFrom, List.mem_singleton] at hspan
    rw [hspan, hpos, Span.slice, Text.slice, Text.slice?_append, Option.getD_some]
  | @token pos start stop gap source rest kind tokens hgap hleads hstart hstop hrest ih =>
    -- with the gap and the token, more of the line is done
    have hend : stop = Text.byteLength (before ++ gap ++ source) := by
      rw [hstop, hstart, hpos, Text.byteLength_append, Text.byteLength_append]
    have hline : before ++ (gap ++ (source ++ rest)) = before ++ gap ++ source ++ rest := by
      simp only [List.append_assoc]
    have hgapCut : Text.slice? (before ++ (gap ++ (source ++ rest))) pos start = some gap :=
      Text.slice?_middle hpos hstart
    have hsourceCut : Text.slice? (before ++ gap ++ (source ++ rest)) start stop = some source :=
      Text.slice?_middle (by rw [hstart, hpos, Text.byteLength_append]) hstop
    rw [List.append_assoc] at hsourceCut
    intro span hspan
    rcases List.mem_cons.1 hspan with rfl | hspan
    · rw [Span.slice, Text.slice, hgapCut, Option.getD_some]
    · rcases List.mem_cons.1 hspan with rfl | hspan
      · rw [Span.slice, Text.slice, hsourceCut, Option.getD_some]
      · rw [hline] at hspan ⊢
        exact ih hend span hspan

/-- **If no cut is refused**, it makes no difference that it could be. -/
theorem renderFrom?_eq {line : Text} {cursor : Nat} {assigned : List Assigned}
    (h : ∀ span ∈ cutsFrom (Text.byteLength line) cursor (assigned.map Assigned.token),
      Text.slice? line span.start span.stop = some (span.slice line)) :
    renderFrom? line theme markup cursor assigned =
      some (renderFrom line theme markup cursor assigned) := by
  induction assigned generalizing cursor with
  | nil => exact h _ List.mem_cons_self
  | cons a rest ih =>
    rw [List.map_cons, cutsFrom, List.forall_mem_cons, List.forall_mem_cons] at h
    obtain ⟨hgap, hsource, hrest⟩ := h
    rw [renderFrom?, hgap, hsource, ih hrest, renderFrom, List.append_assoc]
    rfl

theorem map_token_assign (known : Text → Bool) (atName : Bool) (tokens : List Token) :
    (assign known atName tokens).map Assigned.token = tokens := by
  induction tokens generalizing atName with
  | nil => rfl
  | cons t tokens ih => rw [assign_cons, List.map_cons, ih, assignedAt]

/-- **A highlighted line is the line with its tokens painted**, in whatever markup: its gaps and
pieces in turn. No cut that is made on the way is refused, and the ends of each are the right way
round. In particular, without colours a line is shown as it is. -/
theorem render_eq_weave (known : Text → Bool) (theme : Theme) (markup : Markup) (line : Text) :
    render known theme markup line =
        weave (gaps line (tokenizeLossy line)) (pieces known theme markup line) ∧
      render? known theme markup line = some (render known theme markup line) ∧
      (∀ span ∈ cuts line, span.start ≤ span.stop) ∧
      render known theme .plain line = line := by
  have hstart : 0 = Text.byteLength [] := rfl
  have hreads := Token.readsForgiving_tokenizeLossy line
  have hcuts : ∀ span ∈ cuts line,
      Text.slice? line span.start span.stop = some (span.slice line) :=
    slice?_of_mem_cutsFrom hreads hstart
  refine ⟨?_, ?_, ?_, (shows_render known theme .plain line).eq_of_plain⟩
  · -- in front of the first token there is none, so that it opens a segment
    have hroles : roles known line = _ := assign_eq_zipWith hreads none
    rw [render_eq_renderFrom, hroles]
    exact renderFrom_eq_weave line 0 none _
  · refine renderFrom?_eq ?_
    rw [roles, map_token_assign]
    exact hcuts
  · intro span hspan
    exact Text.le_of_slice?_eq_some (hcuts span hspan)

/-- A line with an unknown name, a quoted name, an argument and a string that is not closed. -/
def fourPieces : Text := "é ;\"a\" x \"y"

theorem render_eq_weave_fourPieces :
    render (fun name => name == "a") .standard .rich fourPieces =
        "<color=#F44747>é</color> ;<color=#4EC9B0>\"a\"</color> " ++
          "<color=#D4D4D4>x</color> <color=#CE9178>\"y</color>" ∧
      ⟨4, 7⟩ ∈ cuts fourPieces ∧ (⟨4, 7⟩ : Span).start ≤ (⟨4, 7⟩ : Span).stop := by
  have hcut : ⟨4, 7⟩ ∈ cuts fourPieces := by decide +kernel
  obtain ⟨hweave, -, hcuts, -⟩ :=
    render_eq_weave (fun name => name == "a") .standard .rich fourPieces
  refine ⟨?_, hcut, hcuts _ hcut⟩
  rw [hweave]
  decide +kernel

end CommandConsole.Highlight
