import CommandConsole.Proofs.Repl.Stream
import CommandConsole.Proofs.Session.Lines
import CommandConsole.Repl

/-!
# The prompt and the batch run the same program

Lines that are fed to the prompt, where none is shown, come to the same as a list of lines that a
session runs. The two loops are not the same. The batch passes over blank lines, the prompt runs
them and then looks at the flag; and the prompt hands lines to a history. What makes up for the
difference is that a blank line does nothing at all (`Session.runLine_of_blank`), so that the flag
is still down behind it.

`Repl.Follows` says what the two loops have in common after some lines, and is shown line by line
(`Repl.follows_runLinesFrom`). What was handed to the history is told there by the lines that were
read, and the main statement (`Repl.run_agrees_runLines`) tells it by the turns of the batch as
well: both are the same lines. What the history makes of them does not come in, nor does its limit.
-/

namespace CommandConsole

variable {κ : Type} {perform : Perform κ} {w : World κ}

/-! ### Blank lines -/

theorem Repl.handOver_eq (line : Text) : handOver line = Session.nonBlank [line] := by
  rw [handOver]
  cases hblank : Text.isAllBlank line with
  | true =>
    rw [if_pos (Session.isEmpty_trim hblank), Session.nonBlank_cons_of_blank hblank]
    rfl
  | false =>
    rw [if_neg (Session.isEmpty_trim_ne_true hblank), Session.nonBlank_cons_of_not_blank hblank]
    rfl

namespace Session.ReadsUpTo

/-- **The turns are those of the lines that were read**, without the blank ones. -/
theorem map_line_eq {Ends : Turn κ → Prop} {read unread : List Text} {turns : List (Turn κ)}
    (h : ReadsUpTo Ends (read ++ unread) turns unread) :
    turns.map Turn.line = nonBlank read := by
  generalize hlines : read ++ unread = lines at h
  cases h with
  | all _ hturns =>
    -- nothing is unread
    rw [List.append_nil] at hlines
    rw [hturns, hlines]
  | @ended before _ earlier last _ _ hblank hturns =>
    -- what was read ends with the line of the last turn
    have hread : read ++ unread = (before ++ [last.line]) ++ unread := by
      rw [hlines, List.append_assoc, List.singleton_append]
    obtain rfl : read = before ++ [last.line] := List.append_cancel_right hread
    rw [List.map_append, hturns, nonBlank, nonBlank, List.filter_append, List.map_singleton]
    congr 1
    exact (nonBlank_cons_of_not_blank hblank []).symm

end Session.ReadsUpTo

namespace Repl

open Session (Turn nonBlank)

/-! ### One reading -/

theorem showPrompt_nil (w : World κ) : showPrompt [] w = w := by
  rw [showPrompt, Output.append_nil]

theorem readFrom_line_of_raised {line : Text}
    (h : (Session.runLine perform line w).world.exitRequested = true) (rest : List Reading) :
    ∃ printed, readFrom perform [] (.line line :: rest) w =
      ⟨true, (Session.runLine perform line w).world, handOver line, printed, rest,
        (Session.runLine perform line w).notes⟩ := by
  rw [readFrom]
  simp only [showPrompt_nil, h, if_true]
  exact ⟨_, rfl⟩

theorem readFrom_line_of_not_raised {line : Text}
    (h : (Session.runLine perform line w).world.exitRequested = false) (rest : List Reading) :
    ∃ printed, readFrom perform [] (.line line :: rest) w =
      (readFrom perform [] rest (Session.runLine perform line w).world).after (handOver line)
        printed (Session.runLine perform line w).notes := by
  rw [readFrom]
  simp only [showPrompt_nil, h, Bool.false_eq_true, if_false]
  exact ⟨_, rfl⟩

/-! ### The two loops -/

/-- **What the two loops have in common** after some lines. The prompt has handed over the lines
that were read, without the blank ones. -/
structure Follows (lines : List Text) (r : Run κ) (batch : Session.LinesRun κ) : Prop where
  readable : r.readable = true
  world_eq : r.world = batch.world
  unread_eq : r.unread = batch.unread.map Reading.line
  notes_eq : r.notes = batch.notes
  exists_read : ∃ read, lines = read ++ batch.unread ∧ r.handed = nonBlank read

/-- A line in front that both loops have gone through. -/
theorem Follows.cons {line printed : Text} {lines : List Text} {r : Run κ}
    {batch : Session.LinesRun κ} (h : Follows lines r batch) (notes : List Note) :
    Follows (line :: lines) (r.after (handOver line) printed notes) (batch.after notes) where
  readable := h.readable
  world_eq := h.world_eq
  unread_eq := h.unread_eq
  notes_eq := congrArg (notes ++ ·) h.notes_eq
  exists_read := by
    obtain ⟨read, rfl, hhanded⟩ := h.exists_read
    refine ⟨line :: read, rfl, ?_⟩
    show handOver line ++ r.handed = nonBlank ([line] ++ read)
    rw [handOver_eq, hhanded, nonBlank, nonBlank, nonBlank, List.filter_append]

/-- **The prompt follows the batch**, line by line. -/
theorem follows_runLinesFrom (perform : Perform κ) (status : Status) (lines : List Text)
    (hdown : w.exitRequested = false) :
    Follows lines (readFrom perform [] (lines.map Reading.line) w)
      (Session.runLinesFrom perform status lines w) := by
  -- line by line; the statuses need not agree, as the prompt keeps none
  induction lines generalizing status w with
  | nil =>
    rw [List.map_nil, readFrom, showPrompt_nil, Session.runLinesFrom]
    exact ⟨rfl, rfl, rfl, rfl, [], rfl, rfl⟩
  | cons line rest ih =>
    rw [List.map_cons]
    cases hblank : Text.isAllBlank line with
    | true =>
      -- the batch does not see the line, and for the prompt it changes nothing
      have hrun : Session.runLine perform line w = ⟨.success, w, []⟩ :=
        Session.runLine_of_blank hblank
      have hflag : (Session.runLine perform line w).world.exitRequested = false := by rwa [hrun]
      obtain ⟨printed, hread⟩ := readFrom_line_of_not_raised hflag (rest.map Reading.line)
      rw [hread, hrun, Session.runLinesFrom_cons_of_blank hblank]
      exact (ih status hdown).cons []
    | false =>
      cases hflag : (Session.runLine perform line w).world.exitRequested with
      | true =>
        obtain ⟨printed, hread⟩ := readFrom_line_of_raised hflag (rest.map Reading.line)
        rw [hread, Session.runLinesFrom_cons_of_raised hblank hflag]
        exact ⟨rfl, rfl, rfl, rfl, [line], rfl, handOver_eq line⟩
      | false =>
        obtain ⟨printed, hread⟩ := readFrom_line_of_not_raised hflag (rest.map Reading.line)
        rw [hread, Session.runLinesFrom_cons_of_not_raised hblank hflag]
        exact (ih _ hflag).cons _

/-! ### The run as a whole -/

/-- With a history file or without one, the lines are run by the same loop. -/
theorem run_eq_readFrom (perform : Perform κ) (prompt : Text) (limit : Nat) (path? : Option Text)
    (readings : List Reading) (files : FileTree) (w : World κ) :
    ∃ notes, (run perform prompt limit path? readings files w).1 =
      { readFrom perform prompt readings w with notes } := by
  cases path? with
  | none => exact ⟨_, rfl⟩
  | some path => exact ⟨_, rfl⟩

/-- **The prompt has done what the batch did** with these lines, in these turns. -/
structure Agrees (lines : List Text) (turns : List (Turn κ)) (r : Run κ)
    (batch : Session.LinesRun κ) : Prop where
  /-- Nothing that was read is no text. -/
  readable : r.readable = true
  /-- Both streams, the registry, the flag and the journal are the same. -/
  world_eq : r.world = batch.world
  unread_eq : r.unread = batch.unread.map Reading.line
  /-- The history was handed the lines that were run, once each and in order. -/
  handed_eq : r.handed = turns.map Turn.line
  /-- These are the lines that are not blank, up to where reading stopped. -/
  exists_read : ∃ read, lines = read ++ batch.unread ∧
    r.handed = read.filter fun line => !Text.isAllBlank line

theorem Follows.agrees {lines : List Text} {r : Run κ} {batch : Session.LinesRun κ}
    {Ends : Turn κ → Prop} {turns : List (Turn κ)} (h : Follows lines r batch)
    (hreads : Session.ReadsUpTo Ends lines turns batch.unread) :
    Agrees lines turns r batch where
  readable := h.readable
  world_eq := h.world_eq
  unread_eq := h.unread_eq
  handed_eq := by
    obtain ⟨read, rfl, hhanded⟩ := h.exists_read
    rw [hhanded, hreads.map_line_eq]
  exists_read := h.exists_read

/-- **Lines that are fed to the prompt run like a list of lines**: up to the first one behind which
the flag is raised. The history is handed exactly the lines that are run, and these are the lines
that were read and are not blank. Plain lines can be fed as a stream of bytes, on a terminal where
no prompt is shown for it. -/
theorem run_agrees_runLines (perform : Perform κ) (limit : Nat) (path? : Option Text)
    (files : FileTree) (lines : List Text) (hdown : w.exitRequested = false) :
    (∃ turns, Session.RunsUpTo perform (Turn.Raises perform) .success lines w turns
        (Session.runLines perform lines w) ∧
      Agrees lines turns (run perform [] limit path? (lines.map Reading.line) files w).1
        (Session.runLines perform lines w)) ∧
    ∀ prompt terminal, isSimpleTerminal terminal = false → (∀ l ∈ lines, Reading.IsPlain l) →
      runStream perform prompt terminal limit path? (Reading.encodeLines lines) files w =
        run perform [] limit path? (lines.map Reading.line) files w := by
  refine ⟨?_, ?_⟩
  · obtain ⟨turns, hruns⟩ := Session.exists_runsUpTo perform .success lines hdown
    refine ⟨turns, hruns, ?_⟩
    obtain ⟨notes, hrun⟩ := run_eq_readFrom perform [] limit path? (lines.map Reading.line) files w
    have hfollows := follows_runLinesFrom perform .success lines hdown
    have hagrees := hfollows.agrees hruns.reads
    rw [hrun]
    -- the notes on the history file come on top
    exact { hagrees with }
  · intro prompt terminal hterminal hplain
    rw [runStream, hterminal, Reading.obeyed_ofStream_encodeLines hplain,
      if_neg Bool.false_ne_true]

/-- Six lines: one that is rejected, a blank one, one that fails, the same again, and one that ends
the session in front of another. -/
def fedLines : List Text := ["echo \"a", " ", "false", "false", "quit ; echo b", "echo late"]

/-- The lines come from a stream as they were written. The rejected one and the failing ones are
handed to the history, the blank one and the last one are not. That the history has no room for any
of them makes no difference. -/
theorem run_agrees_runLines_fed :
    ∃ turns r, Session.RunsUpTo Builtin.perform (Turn.Raises Builtin.perform) .success fedLines
        (Session.start id) turns (Session.runLines Builtin.perform fedLines (Session.start id)) ∧
      (runStream Builtin.perform ['>'] "xterm" 0 none (Reading.encodeLines fedLines) .empty
        (Session.start id)).1 = r ∧
      Agrees fedLines turns r
        (Session.runLines Builtin.perform fedLines (Session.start id)) ∧
      r.handed =
        (["echo \"a", "false", "false", "quit ; echo b"] : List Text) ∧
      r.unread = [Reading.line "echo late"] := by
  have hplain : ∀ l ∈ fedLines, Reading.IsPlain l := by
    have hall : ∀ l ∈ fedLines, '\n' ∉ l ∧ '\x08' ∉ l ∧ l.getLast? ≠ some '\r' := by decide
    intro l hl
    obtain ⟨hlineFeed, hbackspace, hreturn⟩ := hall l hl
    exact ⟨hlineFeed, hbackspace, hreturn⟩
  obtain ⟨⟨turns, hruns, hagrees⟩, hstream⟩ :=
    run_agrees_runLines Builtin.perform 0 none .empty fedLines
      (show (Session.start (id : Builtin → Builtin)).exitRequested = false from rfl)
  have hr := hstream ['>'] "xterm" (by decide) hplain
  have hrun : (run Builtin.perform [] 0 none (fedLines.map Reading.line) .empty
        (Session.start id)).1.handed =
        (["echo \"a", "false", "false", "quit ; echo b"] : List Text) ∧
      (run Builtin.perform [] 0 none (fedLines.map Reading.line) .empty
        (Session.start id)).1.unread = [Reading.line "echo late"] := by decide +kernel
  exact ⟨turns, _, hruns, congrArg Prod.fst hr, hagrees, hrun⟩

end Repl

end CommandConsole
