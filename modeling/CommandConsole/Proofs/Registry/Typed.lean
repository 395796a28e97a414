import CommandConsole.Proofs.Chain.Resolution
import CommandConsole.Proofs.Registry.History
import CommandConsole.Proofs.Token.LastToken

/-!
# Names and the words of a line

Two places look at the characters of a name. The registry refuses a name that is empty or contains a
blank, a quote or a separator. The lexer ends a word at a blank or a separator, and takes a quote
for the start of a string only in front of the word; further on in the word it is a character like
any other. So the two differ in one character: `a"b` is a word of a line, and no name.

Apart from it they agree. A name is accepted exactly if the lexer reads it as one word, from its
first byte to its last, and there is no quote in it (`Registry.isCommandName_iff_isTyped`). A word
that a blank or a separator ends stays the same word (`Token.Settled.of_isSpelled`), and at the
front of a line it opens the first segment. Hence in a registry that came about by calls each
command can be called: whatever is written behind its name, if the line has a chain, its first call
is a call of this command. The main statement, `Registry.names_typed`, holds both.
-/

namespace CommandConsole

variable {κ : Type}

/-! ### The first call of a line -/

namespace Chain

/-- **A known name in front of everything** makes the first call. -/
theorem exists_invocationsOf_cons {lookup : Lookup κ} {t : Token} {command : Command κ}
    (hword : t.kind.isSeparator = false) (hcommand : lookup t.text = some command)
    (more : List Token) :
    ∃ (s : Segment) (later : List (Invocation κ)), s.name = t ∧
      invocationsOf lookup (segments (t :: more)) = s.invocation command true :: later := by
  have hsegments : segments (t :: more) =
      ⟨.always, t, (cut more).1⟩ :: segmentsOf (cut more).2 := by
    rw [segments, cut_cons_word hword, segmentsOf_cons_cons]
  refine ⟨⟨.always, t, (cut more).1⟩,
    (known lookup (segmentsOf (cut more).2)).map laterInvocation, rfl, ?_⟩
  rw [hsegments, invocationsOf, known, List.filterMap_cons, hcommand]
  rfl

end Chain

namespace Registry

/-! ### Names and words -/

/-- **A name is typed as it is**: the lexer reads it as one word, which is all of it. -/
def IsTyped (name : Text) : Prop :=
  Token.tokenize name = .ok [⟨.word name, ⟨0, Text.byteLength name⟩⟩]

/-- **The registry and the lexer agree on names**, but for quotes inside of words. -/
theorem isCommandName_iff_isTyped {name : Text} :
    isCommandName name = true ↔ IsTyped name ∧ '"' ∉ name := by
  constructor
  · intro h
    have hended : (Token.Kind.word name).IsEndedBy [] := nofun
    have hsettled := Token.Settled.of_isSpelled (isSpelled_of_isCommandName h) hended
    refine ⟨hsettled.tokenize_front, ?_⟩
    intro hquote
    exact (isCommandName_iff.1 h).2 '"' hquote (.inr (.inl rfl))
  · rintro ⟨htyped, hquote⟩
    obtain ⟨-, hne, -, hword⟩ :=
      (Token.isReading_of_tokenize htyped).spelled _ List.mem_cons_self
    refine isCommandName_iff.2 ⟨hne, ?_⟩
    intro c hc hforbidden
    -- what is forbidden ends a word, unless it is a quote
    rcases hforbidden with hblank | rfl | hmark
    · exact hword c hc (.inl hblank)
    · exact hquote hc
    · exact hword c hc (.inr hmark)

/-- A word with a quote in it is no name. -/
example : Token.tokenize "a\"b" = .ok [⟨.word "a\"b", ⟨0, 3⟩⟩] ∧ isCommandName "a\"b" = false := by
  cbv

theorem register_ne_invalidName_iff {r : Registry κ} {c : Command κ} :
    (∀ name, r.register c ≠ .error (.invalidName name)) ↔ isCommandName c.name = true := by
  constructor
  · intro h
    by_cases hname : isCommandName c.name = true
    · exact hname
    · exact absurd (by rw [register, if_pos (by simpa using hname)]) (h c.name)
  · intro hname name h
    rw [register, if_neg (by simpa using hname)] at h
    split at h <;> cases h

/-- **A name in front of a line** is the first token of the line. -/
theorem exists_tokenize_append {name tail : Text} {tokens : List Token}
    (hname : isCommandName name = true)
    (htail : tail = [] ∨ ∃ ch rest, tail = ch :: rest ∧ Token.EndsWord ch)
    (h : Token.tokenize (name ++ tail) = .ok tokens) :
    ∃ more, tokens = ⟨.word name, ⟨0, Text.byteLength name⟩⟩ :: more := by
  have hended : (Token.Kind.word name).IsEndedBy tail := by
    intro d hd
    rcases htail with rfl | ⟨ch, rest, rfl, hch⟩
    · cases hd
    · obtain rfl : ch = d := Option.some.inj hd
      exact hch
  have hsettled := Token.Settled.of_isSpelled (isSpelled_of_isCommandName hname) hended
  rw [hsettled.tokenize_append] at h
  split at h
  · cases h
  · cases h
    exact ⟨_, rfl⟩

/-- **The names that can be registered are the words that can be typed**, but for quotes. And
whatever calls a registry has got, each of its commands can be called by its name: a line that
starts with the name, followed by nothing or by a character that ends it, calls this command first
if it has a chain. -/
theorem names_typed :
    (∀ (r : Registry κ) (c : Command κ),
      (∀ name, r.register c ≠ .error (.invalidName name)) ↔ IsTyped c.name ∧ '"' ∉ c.name) ∧
    ∀ (calls : List (Call κ)) (c : Command κ), c ∈ (afterCalls calls).commands →
      ∀ tail, (tail = [] ∨ ∃ ch rest, tail = ch :: rest ∧ Token.EndsWord ch) →
      ∀ chain, Chain.parse (afterCalls calls).find? (c.name ++ tail) = .ok chain →
        ∃ first later, chain.invocations = first :: later ∧ first.command = c ∧
          first.span.start = 0 ∧ first.independent = true := by
  constructor
  · intro r c
    rw [register_ne_invalidName_iff, isCommandName_iff_isTyped]
  · intro calls c hc tail htail chain hparse
    have hbuilt := built_afterCalls calls
    obtain ⟨tokens, hline, -, rfl⟩ := Chain.exists_sound_of_parse hparse
    obtain ⟨more, rfl⟩ := exists_tokenize_append (hbuilt.isCommandName c hc) htail hline
    -- no other command has the name
    have hfind : (afterCalls calls).find? c.name = some c :=
      hbuilt.find?_eq_some_iff.2 ⟨hc, rfl⟩
    obtain ⟨s, later, hs, hcalls⟩ := Chain.exists_invocationsOf_cons
      (t := ⟨.word c.name, ⟨0, Text.byteLength c.name⟩⟩) rfl hfind more
    refine ⟨s.invocation c true, later, hcalls, rfl, ?_, rfl⟩
    show s.name.span.start = 0
    rw [hs]

/-- Calls that leave two commands, one with a name that would be a flag as an argument. -/
def threeRegistrations : List (Call Unit) :=
  [.register (.plain "a" ()), .register (.plain "?é" ()), .unregister "a",
    .register (.plain "b\\" ())]

/-- A line that begins with the name of one, and goes on with a string, the other, and a segment
that is dropped. -/
theorem names_typed_beforeString :
    ∃ chain, .plain "?é" () ∈ (afterCalls threeRegistrations).commands ∧
      Chain.parse (afterCalls threeRegistrations).find? ("?é" ++ "&\"x\" ;b\\ a; a ?1") =
        .ok chain ∧
      ∃ first later, chain.invocations = first :: later ∧ first.command = .plain "?é" () ∧
        first.span.start = 0 ∧ first.independent = true := by
  have hlisted : .plain "?é" () ∈ (afterCalls threeRegistrations).commands := by decide
  have htail : Token.EndsWord '&' := .inr (.inr rfl)
  obtain ⟨chain, hchain⟩ := Chain.exists_eq_ok_of_isOk
    (show (Chain.parse (afterCalls threeRegistrations).find?
      ("?é" ++ "&\"x\" ;b\\ a; a ?1")).isOk = true by decide +kernel)
  exact ⟨chain, hlisted, hchain,
    names_typed.2 threeRegistrations _ hlisted _ (.inr ⟨_, _, rfl, htail⟩) chain hchain⟩

end Registry

end CommandConsole
