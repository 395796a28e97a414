import CommandConsole.Proofs.Session.Lines
import CommandConsole.Proofs.Token.Forgiving

/-!
# Blank lines

Whether a line is blank is decided in three ways. The console and the loop over several lines trim
the line and look whether anything is left, and then do not look at the line again. Whoever goes on
to the lexer finds out by the tokens: a blank line has none. That these ways agree is a fact about
the lexer, which must find a token, or an open quote, in every line in which trimming leaves
something (`Token.tokenize_eq_nil_iff`, `Token.tokenizeLossy_eq_nil_iff`). It is read off the rules,
in both of which only the case of blanks has no tokens.

So the short ways are only short. The console gives for a blank line what the resolver would give
for it, with no name looked up. The loop leaves out a line that would have done nothing
(`Session.DoesNothing`), so several lines run as those of them that are not blank, and what is left
unread differs in blank lines only (`Session.runLinesFrom_nonBlank`). The main statement,
`Session.blank_lines_agree`, puts this together.
-/

namespace CommandConsole

/-! ### Lines without tokens -/

namespace Token

/-- **A line without tokens is blank**, and a blank line has none. -/
theorem tokenize_eq_nil_iff {line : Text} :
    tokenize line = .ok [] ↔ Text.isAllBlank line = true := by
  constructor
  · intro h
    have hreads : Reads 0 line ⟨[], none⟩ := lexFrom_eq_iff.1 (tokenize_eq_ok_iff.1 h)
    cases hreads with
    | blank hblank => exact hblank
  · exact tokenize_of_isAllBlank

/-- The same for the forgiving lexer, which makes a token of an open quote as well. -/
theorem tokenizeLossy_eq_nil_iff {line : Text} :
    tokenizeLossy line = [] ↔ Text.isAllBlank line = true := by
  constructor
  · intro h
    have hreads := readsForgiving_tokenizeLossy line
    rw [h] at hreads
    cases hreads with
    | blank hblank => exact hblank
  · intro h
    exact tokenizeLossy_of_tokenize (tokenize_of_isAllBlank h)

end Token

namespace Session

variable {κ : Type}

/-! ### Lines that are left out -/

/-- **A line does nothing** in a world. -/
structure DoesNothing (perform : Perform κ) (line : Text) (w : World κ) : Prop where
  /-- No command is called, and nothing happens in the world. -/
  executes : Console.execute perform line w = .ok ⟨true, [], w, []⟩
  /-- Nothing is written or noted, and the line counts as a success. -/
  runs : runLine perform line w = ⟨.success, w, []⟩
  /-- Several lines run with it in front as they do without it. -/
  left_out : ∀ status rest,
    runLinesFrom perform status (line :: rest) w = runLinesFrom perform status rest w

theorem doesNothing_of_blank {perform : Perform κ} {line : Text}
    (h : Text.isAllBlank line = true) (w : World κ) : DoesNothing perform line w where
  executes := execute_of_blank h
  runs := runLine_of_blank h
  left_out status rest := runLinesFrom_cons_of_blank h status rest

/-- **Several lines run as those of them that are not blank**, by induction on the lines: the blank
ones are passed over wherever they stand. -/
theorem runLinesFrom_nonBlank (perform : Perform κ) (status : Status) (lines : List Text)
    (w : World κ) :
    runLinesFrom perform status (nonBlank lines) w =
      { runLinesFrom perform status lines w with
        unread := nonBlank (runLinesFrom perform status lines w).unread } := by
  induction lines generalizing status w with
  | nil => rfl
  | cons line rest ih =>
    cases hblank : Text.isAllBlank line with
    | true => rw [nonBlank_cons_of_blank hblank, runLinesFrom_cons_of_blank hblank, ih]
    | false =>
      rw [nonBlank_cons_of_not_blank hblank]
      -- the line is run in either case, and it decides whether the others are read
      cases hraised : (runLine perform line w).world.exitRequested with
      | true =>
        rw [runLinesFrom_cons_of_raised hblank hraised,
          runLinesFrom_cons_of_raised hblank hraised]
      | false =>
        rw [runLinesFrom_cons_of_not_raised hblank hraised,
          runLinesFrom_cons_of_not_raised hblank hraised, ih]
        rfl

/-- **All ways to find out that a line is blank agree**: trimming and the two lexers. For every line
the console gives what the resolver gives, and for a blank one that is nothing, with no name looked
up. A blank line does nothing, and several lines run as those of them that are not blank. -/
theorem blank_lines_agree (κ : Type) (line : Text) :
    (Text.trim line = [] ↔ Token.tokenize line = .ok []) ∧
    (Token.tokenize line = .ok [] ↔ Token.tokenizeLossy line = []) ∧
    (∀ registry : Registry κ,
      Console.resolve registry line = Chain.resolve registry.find? line ∧
      Console.parse registry line = Chain.parse registry.find? line) ∧
    (Text.trim line = [] →
      (∀ registry : Registry κ, Console.resolve registry line = ⟨[], .ok .empty⟩) ∧
      ∀ (perform : Perform κ) (w : World κ), DoesNothing perform line w) ∧
    ∀ (perform : Perform κ) (status : Status) (lines : List Text) (w : World κ),
      runLinesFrom perform status (nonBlank lines) w =
        { runLinesFrom perform status lines w with
          unread := nonBlank (runLinesFrom perform status lines w).unread } := by
  have htrim := Text.trim_eq_nil_iff line
  refine ⟨htrim.trans Token.tokenize_eq_nil_iff.symm,
    Token.tokenize_eq_nil_iff.trans Token.tokenizeLossy_eq_nil_iff.symm, ?_, ?_, ?_⟩
  · intro registry
    exact ⟨Console.resolve_eq registry line, Console.parse_eq registry line⟩
  · intro h
    have hblank := htrim.1 h
    constructor
    · intro registry
      exact resolve_of_blank hblank registry
    · intro perform w
      exact doesNothing_of_blank hblank w
  · exact runLinesFrom_nonBlank

/-- A line of an ideographic space, a tab and the control that ends a line. -/
def wideBlanks : Text := ['\u3000', '\t', '\u0085']

theorem blank_lines_agree_wide :
    Text.trim wideBlanks = [] ∧ Token.tokenize wideBlanks = .ok [] ∧
      DoesNothing Builtin.perform wideBlanks (start id) := by
  have htrim : Text.trim wideBlanks = [] := by decide
  obtain ⟨hiff, -, -, hblank, -⟩ := blank_lines_agree Builtin wideBlanks
  exact ⟨htrim, hiff.1 htrim, (hblank htrim).2 Builtin.perform (start id)⟩

end Session

end CommandConsole
