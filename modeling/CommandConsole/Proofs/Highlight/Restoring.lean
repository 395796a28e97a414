import CommandConsole.Proofs.Highlight.Painting
import CommandConsole.Proofs.Highlight.Tags
import Mathlib.Data.List.DropRight

/-!
# From the highlighted line back to the line

Markup does not escape the text it is put in, so a line may itself contain what looks like a tag,
and removing everything that looks like one is no way back. Still a highlighted line determines the
line it was made from. `Highlight.restore` finds it, without knowing the registry or the theme:
`Highlight.restore_render`. Hence the main statement, `Highlight.render_injective`: lines that are
shown alike are the same line.

Reading a highlighted line from left to right, one always knows where one is:

* in a gap, or at a separator, no tag has begun, since tags start with a character that could not
  stand there (`Dialect.not_endsWord_first`);
* behind an opening comes a token, and its own spelling says how far it goes
  (`Highlight.unpaint_paint`). A quoted string goes to its closing quote, and an unterminated one to
  the end, for the closing behind it closes no quote (`Token.LeavesOpen.append_plain`). A word
  seems to go on through the closing, which has no character that ends a word, but then it stops: so
  its last characters are the closing.
-/

namespace CommandConsole

open Token (EndsWord IsQuotable LeavesOpen isWordChar closeQuote)

namespace Dialect

variable {d : Dialect} {first last : Char}

/-- **A tag cannot be mistaken for a gap or a separator.** -/
theorem not_endsWord_first (h : d.edges? = some (first, last)) : ¬ EndsWord first := by
  rw [← Token.isWordChar_eq_true_iff]
  cases d with
  | rich =>
    obtain ⟨rfl, -⟩ : '<' = first ∧ '>' = last := by simpa [edges?] using h
    decide
  | ansi =>
    obtain ⟨rfl, -⟩ : '\x1b' = first ∧ 'm' = last := by simpa [edges?] using h
    decide
  | plain => simp [edges?] at h

/-- A closing ends no word. -/
theorem not_endsWord_of_mem_closing (d : Dialect) : ∀ c ∈ d.closing, ¬ EndsWord c := by
  have hall : d.closing.all isWordChar = true := by
    cases d with
    | rich | ansi | plain => rfl
  exact fun c hc => Token.isWordChar_eq_true_iff.1 (List.all_eq_true.1 hall c hc)

/-- A closing closes no quote, and takes no quote along. -/
theorem ne_of_mem_closing (d : Dialect) : ∀ c ∈ d.closing, c ≠ '"' ∧ c ≠ '\\' := by
  have hall : d.closing.all (fun c => c ≠ '"' ∧ c ≠ '\\') = true := by
    cases d with
    | rich | ansi | plain => rfl
  exact fun c hc => of_decide_eq_true (List.all_eq_true.1 hall c hc)

end Dialect

namespace Highlight

variable {known : Text → Bool} {theme : Theme} {d : Dialect} {atName : Bool} {first last : Char}

/-! ### The way back -/

/-- **Taking a token and its closing off the front.** The first part is the token, the second what
follows its closing, which has `closing` characters. -/
def unpaint (closing : Nat) (text : Text) : Text × Text :=
  match text with
  | '"' :: rest =>
    match closeQuote rest with
    | some (q, after) => ('"' :: (q ++ ['"']), after.drop closing)
    | none => (text.rdrop closing, [])
  | _ => ((text.takeWhile isWordChar).rdrop closing, text.dropWhile isWordChar)

/-- What follows a token is not longer than the text. -/
theorem length_unpaint_le (closing : Nat) (text : Text) :
    (unpaint closing text).2.length ≤ text.length := by
  unfold unpaint
  split
  · split
    · next rest q after hclose =>
      have hlt := Token.closeQuote_length hclose
      simp only [List.length_drop, List.length_cons]
      omega
    · exact Nat.zero_le _
  · exact (List.dropWhile_sublist isWordChar).length_le

/-- **The way back** for tags with these edges and closings of this length: an opening is left out,
and the token behind it is kept without its closing. -/
def restoreFrom (first last : Char) (closing : Nat) (out : Text) : Text :=
  match out with
  | [] => []
  | c :: rest =>
    if c = first then
      let found := unpaint closing ((rest.dropWhile (· ≠ last)).drop 1)
      found.1 ++ restoreFrom first last closing found.2
    else c :: restoreFrom first last closing rest
termination_by out.length
decreasing_by
  · have hfound := length_unpaint_le closing ((rest.dropWhile (· ≠ last)).drop 1)
    have hbehind := (List.dropWhile_sublist (· ≠ last) (l := rest)).length_le
    simp only [List.length_drop] at hfound
    simp only [List.length_cons]
    omega
  · simp

/-- **The line that a highlighted line was made from.** -/
def restore (d : Dialect) (out : Text) : Text :=
  match d.edges? with
  | none => out
  | some (first, last) => restoreFrom first last d.closing.length out

/-! ### It leads back -/

/-- A closing is taken off the end. -/
theorem rdrop_closing (d : Dialect) (text : Text) :
    (text ++ d.closing).rdrop d.closing.length = text := List.rdrop_append_length

/-- A row of characters none of which ends a word is a row of word characters. -/
theorem not_endsWord_append_closing {w : Text} (hw : ∀ c ∈ w, ¬ EndsWord c) (d : Dialect) :
    ∀ c ∈ w ++ d.closing, ¬ EndsWord c := by
  intro c hc
  rcases List.mem_append.1 hc with hc | hc
  · exact hw c hc
  · exact d.not_endsWord_of_mem_closing c hc

/-- **A token says how far it goes**, with a closing behind it. -/
theorem unpaint_paint {kind : Token.Kind} {source out : Text} (hleads : kind.Leads source out)
    (hsep : kind.isSeparator = false) (d : Dialect) :
    unpaint d.closing.length (source ++ (d.closing ++ out)) = (source, out) := by
  cases kind with
  | word w =>
    obtain ⟨⟨rfl, hne, hhead, hw⟩, hended⟩ := hleads
    obtain ⟨htake, hdrop⟩ :=
      Token.takeWhile_isWordChar (not_endsWord_append_closing hw d) hended
    rw [← List.append_assoc]
    obtain ⟨c, tail, rfl⟩ := List.exists_cons_of_ne_nil hne
    rw [unpaint]
    · rw [htake, hdrop, rdrop_closing]
    · -- a word does not start with a quote
      intro rest hrest
      exact hhead (congrArg List.head? hrest)
  | quoted q =>
    obtain ⟨⟨rfl, hq⟩, -⟩ := hleads
    have hclose : closeQuote (q ++ '"' :: (d.closing ++ out)) = some (q, d.closing ++ out) :=
      Token.closeQuote_eq_some_iff.2 ⟨hq, rfl⟩
    rw [List.cons_append, List.append_assoc, List.singleton_append, unpaint]
    simp only [hclose, List.drop_left]
  | unterminated q =>
    obtain ⟨rfl, hopen, rfl⟩ := hleads
    have hclose : closeQuote (q ++ d.closing) = none :=
      Token.closeQuote_eq_none_iff.2 (hopen.append_plain d.ne_of_mem_closing)
    rw [List.append_nil, List.cons_append, unpaint]
    simp only [hclose]
    rw [← List.cons_append, rdrop_closing]
  | separator which => cases hsep

/-- A text without the start of a tag is kept. -/
theorem restoreFrom_append {text : Text} (htext : ∀ c ∈ text, c ≠ first) (closing : Nat)
    (out : Text) :
    restoreFrom first last closing (text ++ out) = text ++ restoreFrom first last closing out := by
  induction text with
  | nil => rfl
  | cons c text ih =>
    rw [List.cons_append, restoreFrom, if_neg (htext c List.mem_cons_self),
      ih fun d hd => htext d (List.mem_cons_of_mem c hd), List.cons_append]

/-- **An opening is left out**, whatever its colour, with the closing that belongs to it. -/
theorem restoreFrom_opening (h : d.edges? = some (first, last)) (c : Color) (text : Text) :
    restoreFrom first last d.closing.length (d.opening c ++ text) =
      (unpaint d.closing.length text).1 ++
        restoreFrom first last d.closing.length (unpaint d.closing.length text).2 := by
  obtain ⟨body, hbody, hopening⟩ := Dialect.exists_opening_eq h c
  have hbehind : ((body ++ last :: text).dropWhile (· ≠ last)).drop 1 = text := by
    rw [List.dropWhile_append_of_pos]
    · simp
    · intro d hd
      exact decide_eq_true fun hlast => hbody (hlast ▸ hd)
  rw [hopening, List.cons_append, List.append_assoc, List.singleton_append, restoreFrom,
    if_pos rfl, hbehind]

/-- Blanks do not start a tag. -/
theorem ne_first_of_isAllBlank (h : d.edges? = some (first, last)) {gap : Text}
    (hgap : Text.isAllBlank gap = true) : ∀ c ∈ gap, c ≠ first := by
  rintro c hc rfl
  exact Dialect.not_endsWord_first h (.inl (List.all_eq_true.1 hgap c hc))

/-- **What is shown leads back to the text.** -/
theorem Shows.restoreFrom_eq (h : d.edges? = some (first, last)) {text out : Text}
    (hshows : Shows known theme d.markup atName text out) :
    restoreFrom first last d.closing.length out = text := by
  induction hshows with
  | @blank _ text hblank =>
    have hkept : restoreFrom first last d.closing.length (text ++ []) =
        text ++ restoreFrom first last d.closing.length [] :=
      restoreFrom_append (ne_first_of_isAllBlank h hblank) _ []
    rwa [List.append_nil, restoreFrom, List.append_nil] at hkept
  | @token atName gap source rest out kind hgap hleads hrest ih =>
    rw [restoreFrom_append (ne_first_of_isAllBlank h hgap)]
    refine congrArg (gap ++ ·) ?_
    cases hsep : kind.isSeparator with
    | true =>
      -- a separator is shown as it is, and its mark starts no tag
      have hkept : ∀ c ∈ source, c ≠ first := by
        cases kind with
        | separator which =>
          obtain ⟨rfl, -⟩ := hleads
          rintro c hc rfl
          rw [List.mem_singleton.1 hc] at h
          exact Dialect.not_endsWord_first h (Token.endsWord_mark which)
        | _ => cases hsep
      rw [roleAt_separator known atName hsep, paintAs, restoreFrom_append hkept, ih]
    | false =>
      -- any other token is painted; what is shown behind it could follow it in a line
      obtain ⟨role, hrole⟩ := exists_roleAt known atName hsep
      rw [hrole, paintAs, Dialect.paint_markup, List.append_assoc, List.append_assoc,
        restoreFrom_opening h, unpaint_paint (hrest.leads hleads) hsep, ih]

/-- **The line is found again**, whatever names are known and whatever the theme is. -/
theorem restore_render (known : Text → Bool) (theme : Theme) (d : Dialect) (line : Text) :
    restore d (render known theme d.markup line) = line := by
  have hshows := shows_render known theme d.markup line
  cases d with
  | plain => exact hshows.eq_of_plain
  | rich => exact hshows.restoreFrom_eq rfl
  | ansi => exact hshows.restoreFrom_eq rfl

/-- **Lines that are shown alike are the same line**, in each dialect, also if other names are known
and another theme is used. -/
theorem render_injective (d : Dialect) {known known' : Text → Bool} {theme theme' : Theme}
    {line line' : Text}
    (h : render known theme d.markup line = render known' theme' d.markup line') :
    line = line' := by
  have hrestore := congrArg (restore d) h
  rwa [restore_render, restore_render] at hrestore

/-- The standard theme with names shown alike, known or not. -/
def oneNameTheme : Theme := Theme.standard.withColor .unknownCommand Theme.standard.command

/-- Two spellings of a line that is full of tags and has an open quote. In the one run its name is
known, in the other it is not. -/
theorem render_injective_tags :
    render (fun _ => true) .standard .rich "</color>; \"<color=#4EC9B0>\\" =
        render (fun _ => false) oneNameTheme .rich ("</color>; " ++ "\"<color=#4EC9B0>\\") ∧
      ("</color>; \"<color=#4EC9B0>\\" : Text) = "</color>; " ++ "\"<color=#4EC9B0>\\" := by
  have hshown : render (fun _ => true) .standard .rich "</color>; \"<color=#4EC9B0>\\" =
      render (fun _ => false) oneNameTheme .rich ("</color>; " ++ "\"<color=#4EC9B0>\\") := by
    decide +kernel
  exact ⟨hshown, render_injective .rich hshown⟩

end Highlight

end CommandConsole
