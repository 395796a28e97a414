import CommandConsole.Highlight
import CommandConsole.Proofs.Chain.Resolution
import Mathlib.Data.List.Basic

/-!
# The names in a highlighted line

The highlighter goes over the tokens that the forgiving lexer reads, with a note whether the next
one is a name; the resolver goes over those of the strict lexer, with a buffer for a segment. This
module shows that they take the same tokens for names.

* `Highlight.lookups_eq_map` — the names that are asked for are those of the tokens that play the
  role of a name;
* `Highlight.filter_isName_assign` — without open quotes, these tokens are the names of the
  segments, in order;
* `Token.tokenizeLossy_of_tokenize` — if the strict lexer succeeds, the forgiving one reads the
  same tokens.

The main statement, `Highlight.names_agree`, compares the names that are looked up, in whatever
theme and markup, and, for a line that can be resolved, the tokens shown as commands with the calls
of the chain, and the tokens shown as unknown with the segments that the resolver dropped.
-/

namespace CommandConsole.Highlight

open Chain (Segment segments segmentsOf cut)
open Token (tokenizeLossy_of_tokenize ne_unterminated_of_tokenize)

variable {κ : Type}

/-- The names that a lookup knows. -/
def knownTo (lookup : Lookup κ) (name : Text) : Bool := (lookup name).isSome

/-- The tokens that play a role, in order. -/
def playing (role : Role) (assigned : List Assigned) : List Token :=
  (assigned.filter fun a => a.role? == some role).map Assigned.token

/-- The segments that no call of a chain is written in. -/
def droppedBy (chain : Chain κ) (segs : List Segment) : List Segment :=
  segs.filter fun s => !(chain.invocations.map Invocation.span).contains s.span

/-- A segment's name and its role. -/
def assignedName (known : Text → Bool) (s : Segment) : Assigned :=
  askFor known s.name s.name.text

/-! ### Names and segments -/

theorem isName_nameRole (known : Text → Bool) (name : Text) :
    (nameRole known name).isName = true := by
  rw [nameRole]
  split <;> rfl

theorem assign_cons_separator (known : Text → Bool) (atName : Bool) {t : Token} {which : Separator}
    (h : t.kind = .separator which) (rest : List Token) :
    assign known atName (t :: rest) = ⟨t, none, none⟩ :: assign known true rest := by
  rw [assign, h]

/-- The first token of a segment is its name. -/
theorem assign_cons_name (known : Text → Bool) {t : Token} (hsep : t.kind.isSeparator = false)
    (hclosed : ∀ q, t.kind ≠ .unterminated q) (rest : List Token) :
    assign known true (t :: rest) = askFor known t t.text :: assign known false rest := by
  rw [assign, Token.text]
  cases hk : t.kind with
  | separator which => simp [hk, Token.Kind.isSeparator] at hsep
  | unterminated q => exact absurd hk (hclosed q)
  | word text => rfl
  | quoted text => rfl

/-- The tokens behind it are no names, and no name is asked for. -/
theorem exists_assign_cons_argument (known : Text → Bool) {t : Token}
    (hsep : t.kind.isSeparator = false) (rest : List Token) :
    ∃ role, role.isName = false ∧
      assign known false (t :: rest) = ⟨t, some role, none⟩ :: assign known false rest := by
  rw [assign]
  cases hk : t.kind with
  | separator which => simp [hk, Token.Kind.isSeparator] at hsep
  | unterminated q => exact ⟨.string, rfl, rfl⟩
  | word text => exact ⟨.argument, rfl, rfl⟩
  | quoted text => exact ⟨.string, rfl, rfl⟩

/-- **The tokens that play the role of a name are the names of the segments.** Where no name is
expected, the rest of the run in front is passed over. -/
theorem filter_isName_assign (known : Text → Bool) {tokens : List Token}
    (hclosed : ∀ t ∈ tokens, ∀ q, t.kind ≠ .unterminated q) (atName : Bool) (after : Separator) :
    ((assign known atName tokens).filter fun a => a.role?.any Role.isName) =
      (segmentsOf (if atName then (after, (cut tokens).1) :: (cut tokens).2
        else (cut tokens).2)).map (assignedName known) := by
  induction tokens generalizing atName after with
  | nil => cases atName <;> rfl
  | cons t rest ih =>
    have hrest := ih fun u hu => hclosed u (List.mem_cons_of_mem t hu)
    cases hsep : t.kind.isSeparator with
    | true =>
      -- a separator ends the run, and the next one is a segment of its own
      obtain ⟨which, hwhich⟩ := Chain.exists_eq_separator hsep
      rw [assign_cons_separator known atName hwhich, List.filter_cons_of_neg Bool.false_ne_true,
        hrest true which, Chain.cut_cons_separator hwhich]
      cases atName <;> rfl
    | false =>
      rw [Chain.cut_cons_word hsep]
      cases atName with
      | true =>
        -- this token opens the run, and the rest of the run is passed over
        have hname : (askFor known t t.text).role?.any Role.isName = true :=
          isName_nameRole known t.text
        rw [assign_cons_name known hsep (hclosed t List.mem_cons_self), List.filter_cons,
          if_pos hname, hrest false after]
        rfl
      | false =>
        obtain ⟨role, hrole, hassign⟩ := exists_assign_cons_argument known hsep rest
        have hno : ¬ (⟨t, some role, none⟩ : Assigned).role?.any Role.isName = true := by
          simp [hrole]
        rw [hassign, List.filter_cons, if_neg hno, hrest false after]
        rfl

/-- The tokens that play one of the roles of a name. -/
theorem playing_assign (known : Text → Bool) {tokens : List Token}
    (hclosed : ∀ t ∈ tokens, ∀ q, t.kind ≠ .unterminated q) {role : Role}
    (hrole : role.isName = true) :
    playing role (assign known true tokens) =
      ((segments tokens).filter fun s => nameRole known s.name.text == role).map Segment.name := by
  have hnames := filter_isName_assign known hclosed true .always
  -- only names play this role, so it is enough to look among them
  have hfilter : ((assign known true tokens).filter fun a => a.role?.any Role.isName).filter
      (fun a => a.role? == some role) =
        (assign known true tokens).filter fun a => a.role? == some role := by
    rw [List.filter_filter]
    refine List.filter_congr fun a _ => ?_
    by_cases h : a.role? = some role
    · simp [h, hrole]
    · simp [h]
  rw [playing, ← hfilter, hnames, List.filter_map, List.map_map]
  rfl

/-! ### The names that are looked up -/

/-- **A token's name is asked for if it plays the role of a name**, and otherwise nothing is. -/
theorem asked?_of_mem_assign {known : Text → Bool} {atName : Bool} {tokens : List Token}
    {a : Assigned} (h : a ∈ assign known atName tokens) :
    a.asked? = if a.role?.any Role.isName then some a.token.text else none := by
  induction tokens generalizing atName with
  | nil => exact absurd h List.not_mem_nil
  | cons t rest ih =>
    rw [assign] at h
    cases hkind : t.kind with
    | separator which =>
      rw [hkind] at h
      rcases List.mem_cons.1 h with rfl | h
      · rfl
      · exact ih h
    | unterminated q =>
      rw [hkind] at h
      rcases List.mem_cons.1 h with rfl | h
      · rfl
      · exact ih h
    | word text | quoted text =>
      rw [hkind] at h
      rcases List.mem_cons.1 h with rfl | h
      · cases atName with
        | true =>
          have htext : t.text = text := by
            rw [Token.text, hkind, Token.Kind.text?, Option.getD_some]
          show some text = if (nameRole known text).isName then some t.text else none
          rw [isName_nameRole, if_pos rfl, htext]
        | false => rfl
      · exact ih h

theorem lookups_eq_map (known : Text → Bool) (line : Text) :
    lookups known line =
      ((roles known line).filter fun a => a.role?.any Role.isName).map fun a => a.token.text := by
  rw [← List.filterMap_eq_map, List.filterMap_filter]
  exact List.filterMap_congr fun a ha => asked?_of_mem_assign ha

/-- The highlighter looks up the names of all segments. -/
theorem lookups_of_tokenize (known : Text → Bool) {line : Text} {tokens : List Token}
    (h : Token.tokenize line = .ok tokens) :
    lookups known line = Chain.names (segments tokens) := by
  rw [lookups_eq_map, roles, tokenizeLossy_of_tokenize h,
    filter_isName_assign known (ne_unterminated_of_tokenize h) true .always, List.map_map]
  rfl

/-! ### Calls and dropped segments -/

theorem nameRole_beq_command (known : Text → Bool) (name : Text) :
    (nameRole known name == .command) = known name := by
  rw [nameRole]
  cases known name <;> rfl

theorem nameRole_beq_unknownCommand (known : Text → Bool) (name : Text) :
    (nameRole known name == .unknownCommand) = !known name := by
  rw [nameRole]
  cases known name <;> rfl

/-- **The dropped segments are those with unknown names.** No call is written at the span of such a
segment, since segments start at different places. -/
theorem droppedBy_eq_filter (lookup : Lookup κ) {tokens : List Token} (h : Token.InOrder tokens)
    {chain : Chain κ} (hchain : chain.invocations = Chain.invocationsOf lookup (segments tokens)) :
    droppedBy chain (segments tokens) =
      (segments tokens).filter fun s => !knownTo lookup s.name.text := by
  have hspans : chain.invocations.map Invocation.span =
      ((segments tokens).filter fun s => knownTo lookup s.name.text).map Segment.span := by
    rw [hchain]
    exact Chain.map_invocationsOf (fun _ _ _ _ => rfl) _
  rw [droppedBy, hspans]
  refine List.filter_congr fun s hs => congrArg not (Bool.eq_iff_iff.2 ?_)
  rw [List.contains_iff_mem, List.mem_map]
  constructor
  · rintro ⟨r, hr, hspan : r.span = s.span⟩
    obtain ⟨hmem, hknown⟩ := List.mem_filter.1 hr
    have hstart : r.name.span.start = s.name.span.start :=
      congrArg (fun span => span.start) hspan
    rwa [Chain.name_eq_of_start_eq h hmem hs hstart] at hknown
  · exact fun hknown => ⟨s, List.mem_filter.2 ⟨hs, hknown⟩, rfl⟩

/-- **The highlighter and the resolver agree on names.** They look up the same names, as far as the
resolver gets. In a line that can be resolved, the tokens shown as commands stand where the calls
start, and those shown as unknown are the names of the dropped segments. -/
theorem names_agree (lookup : Lookup κ) (theme : Theme) (markup : Markup) (line : Text) :
    match Chain.parse lookup line with
    | .error (.unclosedQuote _) => (Chain.resolve lookup line).lookups = []
    | .error (.malformedFlag _ _) =>
      (Chain.resolve lookup line).lookups <+:
        (highlight (knownTo lookup) theme markup line).lookups
    | .ok chain =>
      (Chain.resolve lookup line).lookups =
        (highlight (knownTo lookup) theme markup line).lookups ∧
      (playing .command (roles (knownTo lookup) line)).map
          (fun t => (t.span.start, lookup t.text)) =
        chain.invocations.map (fun i => (i.span.start, some i.command)) ∧
      (playing .command (roles (knownTo lookup) line)).map Token.text =
        (Chain.resolve lookup line).lookups.filter (knownTo lookup) ∧
      ∃ tokens, Token.tokenize line = .ok tokens ∧
        playing .unknownCommand (roles (knownTo lookup) line) =
          (droppedBy chain (segments tokens)).map Segment.name := by
  have hresolution := Chain.isResolution_resolve lookup line
  rw [Chain.parse, lookups_highlight]
  generalize Chain.resolve lookup line = r at hresolution
  cases hresolution with
  | @unreadable e hline =>
    -- no name was looked up, whatever the error is
    cases e with
    | unclosedQuote span => rfl
    | malformedFlag flag span => exact List.nil_prefix
  | @faulty tokens before after s bad hline hsegments =>
    show Chain.names (before ++ [s]) <+: lookups (knownTo lookup) line
    rw [lookups_of_tokenize _ hline, hsegments, List.append_cons before s after]
    exact (List.prefix_append (before ++ [s]) after).map _
  | @sound tokens calls hline _ hcalls =>
    obtain rfl := Chain.areCalls_iff.1 hcalls
    have hroles : roles (knownTo lookup) line = assign (knownTo lookup) true tokens := by
      rw [roles, tokenizeLossy_of_tokenize hline]
    have hclosed := ne_unterminated_of_tokenize hline
    have hcommands : playing .command (roles (knownTo lookup) line) =
        ((segments tokens).filter fun s => knownTo lookup s.name.text).map Segment.name := by
      rw [hroles, playing_assign _ hclosed rfl]
      simp only [nameRole_beq_command]
    refine ⟨(lookups_of_tokenize _ hline).symm, ?_, ?_, tokens, hline, ?_⟩
    · rw [hcommands, List.map_map]
      refine (Chain.map_invocationsOf (fun s command _ hcommand => ?_) _).symm
      rw [Function.comp_apply, hcommand]
      rfl
    · rw [hcommands, Chain.names, List.filter_map, List.map_map]
      rfl
    · rw [droppedBy_eq_filter lookup (Token.inOrder_of_tokenize hline) rfl, hroles,
        playing_assign _ hclosed rfl]
      simp only [nameRole_beq_unknownCommand]

end CommandConsole.Highlight
