import CommandConsole.Proofs.Token.Joining

/-!
# The last token of a line

All that the two lexers disagree about, and all that more text at the end of a line can change, is
the last token. So this module takes a line apart in front of it.

Reading goes from left to right, and what is read does depend on what follows: a word ends where
it does only because of the character behind it. What is left of a line once its last token is cut
off therefore need not read as before, unless that token is looked at as well. It is enough to look
at its first character, and that is what `Token.Settled` says. The main lemma,
`Token.ReadsForgiving.exists_settled_front`: in front of a token that goes on to the end of the
line, the line is settled.
-/

namespace CommandConsole.Token

/-- What ends a token in front of a text ends it in front of a leading part of it. -/
theorem Kind.IsEndedBy.of_append {kind : Kind} {front back : Text}
    (h : kind.IsEndedBy (front ++ back)) : kind.IsEndedBy front := by
  cases kind with
  | word w =>
    intro c hc
    refine h c ?_
    rw [List.head?_append, hc, Option.some_or]
  | _ => trivial

/-- In front of more text a token is spelled and ended, since an unterminated string goes on to the
end. -/
theorem Kind.Leads.of_ne_nil {kind : Kind} {source rest : Text} (h : kind.Leads source rest)
    (hne : rest ≠ []) : kind.IsSpelled source ∧ kind.IsEndedBy rest := by
  cases kind with
  | unterminated q => exact absurd h.2.2 hne
  | _ => exact h

theorem ReadsForgiving.ne_nil {pos : Nat} {text : Text} {tokens : List Token}
    (h : ReadsForgiving pos text tokens) (hne : tokens ≠ []) : text ≠ [] := by
  cases h with
  | blank => exact absurd rfl hne
  | token _ hleads =>
    intro heq
    obtain ⟨-, hboth⟩ := List.append_eq_nil_iff.1 heq
    exact hleads.ne_nil (List.append_eq_nil_iff.1 hboth).1

/-- **A token that goes on to the end of a line**: it ends there, or it is an unterminated string,
which cannot end anywhere else. -/
def GoesToEnd (stop : Nat) (t : Token) : Prop :=
  t.span.stop = stop ∨ ∃ q, t.kind = .unterminated q

/-- A token is put in front of a settled text, behind a gap. -/
theorem Settled.cons {pos start stop : Nat} {gap source front back : Text} {kind : Kind}
    {tokens : List Token} (hgap : Text.isAllBlank gap = true) (hspelled : kind.IsSpelled source)
    (hended : kind.IsEndedBy (front ++ back)) (hstart : start = pos + Text.byteLength gap)
    (hstop : stop = start + Text.byteLength source) (h : Settled stop front tokens back) :
    Settled pos (gap ++ (source ++ front)) (⟨kind, ⟨start, stop⟩⟩ :: tokens) back where
  reads := .token hgap hspelled hended.of_append hstart hstop h.reads
  ended := by
    intro t hlast hend
    have hlength : pos + Text.byteLength (gap ++ (source ++ front)) =
        stop + Text.byteLength front := by
      simp only [Text.byteLength_append]
      omega
    rw [hlength] at hend
    rw [List.getLast?_cons] at hlast
    cases hmore : tokens.getLast? with
    | some u =>
      -- a last token behind it is the last one of all
      rw [hmore] at hlast
      obtain rfl : u = t := by simpa using hlast
      exact h.ended u hmore hend
    | none =>
      -- there is no token behind it, and no gap either if it ends with the text
      rw [hmore] at hlast
      obtain rfl : (⟨kind, ⟨start, stop⟩⟩ : Token) = t := by simpa using hlast
      have hfront : front = [] := by
        replace hend : stop = stop + Text.byteLength front := hend
        exact Text.eq_nil_of_byteLength_eq_zero (by omega)
      rwa [hfront, List.nil_append] at hended

/-- **A spelled token is settled** in front of whatever may end it. -/
theorem Settled.of_isSpelled {kind : Kind} {source back : Text} (hspelled : kind.IsSpelled source)
    (hended : kind.IsEndedBy back) :
    Settled 0 source [⟨kind, ⟨0, Text.byteLength source⟩⟩] back := by
  have hnil : Settled (Text.byteLength source) [] [] back := .of_isAllBlank rfl back
  have h : Settled 0 ([] ++ (source ++ [])) _ back :=
    .cons rfl hspelled hended rfl (Nat.zero_add _).symm hnil
  rwa [List.nil_append, List.append_nil] at h

/-- **In front of a token that goes on to its end, a text is settled.** -/
theorem ReadsForgiving.exists_settled_front {pos : Nat} {text : Text} {tokens : List Token}
    (h : ReadsForgiving pos text tokens) {init : List Token} {t : Token}
    (htokens : tokens = init ++ [t]) (hend : GoesToEnd (pos + Text.byteLength text) t) :
    ∃ front source, text = front ++ source ∧ t.kind.Leads source [] ∧
      t.span = ⟨pos + Text.byteLength front, pos + Text.byteLength text⟩ ∧
      Settled pos front init source := by
  induction h generalizing init with
  | blank => simp at htokens
  | @token pos start stop gap source rest kind tokens hgap hleads hstart hstop hrest ih =>
    have hlength : pos + Text.byteLength (gap ++ (source ++ rest)) =
        stop + Text.byteLength rest := by
      simp only [Text.byteLength_append]
      omega
    rw [hlength] at hend ⊢
    cases init with
    | nil =>
      -- this is the last token, and with its going to the end nothing is behind it
      obtain ⟨rfl, rfl⟩ := List.cons.inj htokens
      have hnil : rest = [] := by
        rcases hend with hhere | ⟨q, rfl⟩
        · replace hhere : stop = stop + Text.byteLength rest := hhere
          exact Text.eq_nil_of_byteLength_eq_zero (by omega)
        · exact hleads.2.2
      subst hnil
      refine ⟨gap, source, by simp, hleads, ?_, ?_⟩
      · rw [hstart, Text.byteLength_nil, Nat.add_zero]
      · exact ⟨.blank hgap, fun u hu => by simp at hu⟩
    | cons u init =>
      obtain ⟨rfl, rfl⟩ := List.cons.inj htokens
      obtain ⟨front, last, rfl, hlast, hspan, hsettled⟩ := ih rfl hend
      have hne : front ++ last ≠ [] := hrest.ne_nil (by simp)
      obtain ⟨hspelled, hended⟩ := hleads.of_ne_nil hne
      refine ⟨gap ++ (source ++ front), last, by simp, hlast, ?_,
        hsettled.cons hgap hspelled hended hstart hstop⟩
      rw [hspan]
      congr 1
      simp only [Text.byteLength_append]
      omega

end CommandConsole.Token
