import CommandConsole.Proofs.Session.Builtins

/-!
# Running several lines

A session runs lines until one ends it. The loop finds out by the flag, which it looks at behind
each line that is not blank. This module says what comes of it without the loop
(`Session.RunsUpTo`): the **turns** that are taken, which are the lines that are run, each with the
world in which it is; that they are the lines up to the first one that ends the session, without
those that are blank, and that no line behind it is read; the status; and the flag.

The loop is followed once (`Session.exists_runsUpTo`), for any commands, and there a line ends the
session if it leaves the flag raised. In a session that holds no commands but builtins these are the
lines during which `exit` or `quit` is called, because the flag is down when a line is started and
nothing else raises it. `Session.runLines_up_to_exit` puts this together, and adds what comes of two
lists of lines in a row (`Session.runLines_append`).
-/

namespace CommandConsole.Session

variable {κ : Type} {perform : Perform κ} {w : World κ}

/-! ### Lines that are not blank -/

/-- The lines that are not blank. -/
def nonBlank (lines : List Text) : List Text := lines.filter fun line => !Text.isAllBlank line

theorem nonBlank_cons_of_blank {line : Text} (h : Text.isAllBlank line = true)
    (lines : List Text) : nonBlank (line :: lines) = nonBlank lines :=
  List.filter_cons_of_neg (by simp [h])

theorem nonBlank_cons_of_not_blank {line : Text} (h : Text.isAllBlank line = false)
    (lines : List Text) : nonBlank (line :: lines) = line :: nonBlank lines :=
  List.filter_cons_of_pos (by simp [h])

theorem isEmpty_trim {line : Text} (h : Text.isAllBlank line = true) :
    (Text.trim line).isEmpty = true := by
  rwa [List.isEmpty_iff, Text.trim_eq_nil_iff]

theorem isEmpty_trim_ne_true {line : Text} (h : Text.isAllBlank line = false) :
    ¬ (Text.trim line).isEmpty = true := by
  rw [List.isEmpty_iff, Text.trim_eq_nil_iff, h]
  exact Bool.false_ne_true

theorem resolve_of_blank {line : Text} (h : Text.isAllBlank line = true)
    (registry : Registry κ) : Console.resolve registry line = .pure .empty := by
  rw [Console.resolve, if_pos (isEmpty_trim h)]

/-- **A blank line calls nothing.** -/
theorem execute_of_blank {line : Text} (h : Text.isAllBlank line = true) :
    Console.execute perform line w = .ok ⟨true, [], w, []⟩ := by
  rw [Console.execute, Console.parse, resolve_of_blank h]
  rfl

/-- **A blank line does nothing.** -/
theorem runLine_of_blank {line : Text} (h : Text.isAllBlank line = true) :
    runLine perform line w = ⟨.success, w, []⟩ := by
  have hevents : Console.events w.registry line = [] := by
    rw [Console.events, resolve_of_blank h]
    rfl
  simp only [runLine, hevents, execute_of_blank h]
  rfl

/-! ### The loop -/

theorem runLinesFrom_cons_of_blank {line : Text} (h : Text.isAllBlank line = true)
    (status : Status) (rest : List Text) :
    runLinesFrom perform status (line :: rest) w = runLinesFrom perform status rest w := by
  rw [runLinesFrom, if_pos (isEmpty_trim h)]

theorem runLinesFrom_cons_of_raised {line : Text} (h : Text.isAllBlank line = false)
    (hraised : (runLine perform line w).world.exitRequested = true) (status : Status)
    (rest : List Text) :
    runLinesFrom perform status (line :: rest) w =
      ⟨(runLine perform line w).status, (runLine perform line w).world, rest,
        (runLine perform line w).notes⟩ := by
  rw [runLinesFrom, if_neg (isEmpty_trim_ne_true h)]
  simp only [hraised, if_pos]

theorem runLinesFrom_cons_of_not_raised {line : Text} (h : Text.isAllBlank line = false)
    (hdown : (runLine perform line w).world.exitRequested = false) (status : Status)
    (rest : List Text) :
    runLinesFrom perform status (line :: rest) w =
      (runLinesFrom perform (runLine perform line w).status rest
        (runLine perform line w).world).after (runLine perform line w).notes := by
  rw [runLinesFrom, if_neg (isEmpty_trim_ne_true h)]
  simp only [hdown, Bool.false_eq_true, if_false]

/-! ### Turns -/

/-- **A turn**: a line that is run, and the world in which it is. -/
structure Turn (κ : Type) where
  line : Text
  world : World κ

namespace Turn

/-- What running the line comes to. -/
def run (perform : Perform κ) (t : Turn κ) : LineRun κ := runLine perform t.line t.world

/-- The flag is raised after the turn. -/
def Raises (perform : Perform κ) (t : Turn κ) : Prop :=
  (t.run perform).world.exitRequested = true

/-- `exit` or `quit` is called during the turn. -/
def CallsExit (perform : Perform κ) (t : Turn κ) : Prop :=
  Session.CallsExit perform t.line t.world

end Turn

/-- **Turns are taken one after the other**: each in the world that the one before it left. -/
inductive TakesTurns (perform : Perform κ) : World κ → List (Turn κ) → World κ → Prop where
  | nil {w : World κ} : TakesTurns perform w [] w
  | cons {w w' : World κ} {line : Text} {turns : List (Turn κ)}
      (hrest : TakesTurns perform (runLine perform line w).world turns w') :
      TakesTurns perform w (⟨line, w⟩ :: turns) w'

/-- What every line keeps holds whenever a line is run. -/
theorem TakesTurns.keeps {P : World κ → Prop} {turns : List (Turn κ)} {w' : World κ}
    (h : TakesTurns perform w turns w')
    (hstep : ∀ line v, P v → P (runLine perform line v).world) (hw : P w) :
    ∀ t ∈ turns, P t.world := by
  induction h with
  | nil => exact fun _ ht => absurd ht List.not_mem_nil
  | @cons w _ line _ _ ih => exact List.forall_mem_cons.2 ⟨hw, ih (hstep line w hw)⟩

/-- **Lines are read up to the first that ends the session**, and those among them that are not
blank have these turns. -/
inductive ReadsUpTo (Ends : Turn κ → Prop) : List Text → List (Turn κ) → List Text → Prop where
  /-- No line ends the session. -/
  | all {lines : List Text} {turns : List (Turn κ)} (hnone : ∀ t ∈ turns, ¬ Ends t)
      (hlines : turns.map Turn.line = nonBlank lines) : ReadsUpTo Ends lines turns []
  /-- The last turn is the first to end the session. -/
  | ended {before unread : List Text} {earlier : List (Turn κ)} {last : Turn κ}
      (hnone : ∀ t ∈ earlier, ¬ Ends t) (hends : Ends last)
      (hblank : Text.isAllBlank last.line = false)
      (hlines : earlier.map Turn.line = nonBlank before) :
      ReadsUpTo Ends (before ++ last.line :: unread) (earlier ++ [last]) unread

namespace ReadsUpTo

variable {Ends : Turn κ → Prop} {lines unread : List Text} {turns : List (Turn κ)}

theorem cons_blank {line : Text} (h : ReadsUpTo Ends lines turns unread)
    (hblank : Text.isAllBlank line = true) : ReadsUpTo Ends (line :: lines) turns unread := by
  cases h with
  | all hnone hlines => exact .all hnone (by rw [nonBlank_cons_of_blank hblank, hlines])
  | @ended before unread earlier last hnone hends hlast hlines =>
    show ReadsUpTo Ends ((line :: before) ++ last.line :: unread) (earlier ++ [last]) unread
    exact .ended hnone hends hlast (by rw [nonBlank_cons_of_blank hblank, hlines])

theorem cons_turn {t : Turn κ} (h : ReadsUpTo Ends lines turns unread) (ht : ¬ Ends t)
    (hblank : Text.isAllBlank t.line = false) :
    ReadsUpTo Ends (t.line :: lines) (t :: turns) unread := by
  cases h with
  | all hnone hlines =>
    refine .all (List.forall_mem_cons.2 ⟨ht, hnone⟩) ?_
    rw [nonBlank_cons_of_not_blank hblank, List.map_cons, hlines]
  | @ended before unread earlier last hnone hends hlast hlines =>
    show ReadsUpTo Ends ((t.line :: before) ++ last.line :: unread) ((t :: earlier) ++ [last])
      unread
    refine .ended (List.forall_mem_cons.2 ⟨ht, hnone⟩) hends hlast ?_
    rw [nonBlank_cons_of_not_blank hblank, List.map_cons, hlines]

/-- What ends the session matters for the turns that are taken only. -/
theorem congr {Ends' : Turn κ → Prop} (h : ReadsUpTo Ends lines turns unread)
    (hends : ∀ t ∈ turns, (Ends t ↔ Ends' t)) : ReadsUpTo Ends' lines turns unread := by
  cases h with
  | all hnone hlines =>
    refine .all ?_ hlines
    intro t ht
    exact mt (hends t ht).2 (hnone t ht)
  | @ended _ _ earlier last hnone hlast hblank hlines =>
    have hmem : last ∈ earlier ++ [last] :=
      List.mem_append_right _ (List.mem_singleton_self last)
    refine .ended ?_ ((hends last hmem).1 hlast) hblank hlines
    intro t ht
    exact mt (hends t (List.mem_append_left _ ht)).2 (hnone t ht)

end ReadsUpTo

/-- **Lines are run up to the first that ends the session**, in these turns. `status` is that of the
line that was run before. -/
structure RunsUpTo (perform : Perform κ) (Ends : Turn κ → Prop) (status : Status)
    (lines : List Text) (w : World κ) (turns : List (Turn κ)) (r : LinesRun κ) : Prop where
  reads : ReadsUpTo Ends lines turns r.unread
  takes_turns : TakesTurns perform w turns r.world
  /-- No line is started when the flag is raised. -/
  started : ∀ t ∈ turns, t.world.exitRequested = false
  /-- A line that can be resolved is gone through to its end, whatever its calls do. -/
  finished : ∀ t ∈ turns, ∀ chain, Chain.parse t.world.registry.find? t.line = .ok chain →
    ∃ calls e, Console.Executes perform t.line t.world chain calls e ∧
      (t.run perform).world = e.world
  status_eq : r.status = (turns.getLast?.map fun t => (t.run perform).status).getD status
  exitRequested_iff : r.world.exitRequested = true ↔ ∃ t ∈ turns, Ends t

theorem Turn.exists_executes {t : Turn κ} {chain : Chain κ}
    (h : Chain.parse t.world.registry.find? t.line = .ok chain) :
    ∃ calls e, Console.Executes perform t.line t.world chain calls e ∧
      (t.run perform).world = e.world := by
  obtain ⟨calls, e, hexecutes⟩ := Console.exists_executes perform h
  exact ⟨calls, e, hexecutes, hexecutes.world_runLine⟩

/-- **What the loop does**, if the flag is down in the beginning: it runs the lines up to the first
that leaves the flag raised. -/
theorem exists_runsUpTo (perform : Perform κ) (status : Status) (lines : List Text)
    (hdown : w.exitRequested = false) :
    ∃ turns, RunsUpTo perform (Turn.Raises perform) status lines w turns
      (runLinesFrom perform status lines w) := by
  have hnone : ∀ {P : Turn κ → Prop}, ∀ t ∈ ([] : List (Turn κ)), P t := by
    intro P t ht
    exact absurd ht List.not_mem_nil
  -- line by line; that the flag is down is handed from each line to the next
  induction lines generalizing status w with
  | nil =>
    refine ⟨[], .all hnone rfl, .nil, hnone, hnone, rfl, ?_⟩
    simp [runLinesFrom, hdown]
  | cons line rest ih =>
    cases hblank : Text.isAllBlank line with
    | true =>
      obtain ⟨turns, h⟩ := ih status hdown
      rw [runLinesFrom_cons_of_blank hblank]
      exact ⟨turns, { h with reads := h.reads.cons_blank hblank }⟩
    | false =>
      let t : Turn κ := ⟨line, w⟩
      cases hflag : (runLine perform line w).world.exitRequested with
      | true =>
        rw [runLinesFrom_cons_of_raised hblank hflag]
        have hone : ∀ {P : Turn κ → Prop}, P t → ∀ u ∈ [t], P u := by
          intro P h u hu
          rwa [List.mem_singleton.1 hu]
        have hreads : ReadsUpTo (Turn.Raises perform) ([] ++ t.line :: rest) ([] ++ [t]) rest :=
          .ended hnone hflag hblank rfl
        refine ⟨[t], hreads, .cons .nil, hone hdown, hone fun chain => Turn.exists_executes, rfl,
          ?_⟩
        exact iff_of_true hflag ⟨t, List.mem_singleton_self t, hflag⟩
      | false =>
        -- the flag is down again, so the rest is as if the loop started here
        obtain ⟨turns, h⟩ := ih (runLine perform line w).status hflag
        have hgoes : ¬ t.Raises perform := ne_true_of_eq_false hflag
        rw [runLinesFrom_cons_of_not_raised hblank hflag]
        refine ⟨t :: turns, h.reads.cons_turn hgoes hblank, .cons h.takes_turns,
          List.forall_mem_cons.2 ⟨hdown, h.started⟩,
          List.forall_mem_cons.2 ⟨fun chain => Turn.exists_executes, h.finished⟩, ?_, ?_⟩
        · -- with no turn behind it, this is the last one
          refine h.status_eq.trans ?_
          rw [List.getLast?_cons]
          cases turns.getLast? with
          | none => rfl
          | some u => rfl
        · refine h.exitRequested_iff.trans ?_
          simp only [List.mem_cons, exists_eq_or_imp, hgoes, false_or]

/-- What ends the session can be said in another way, if it comes to the same for the turns that are
taken. -/
theorem RunsUpTo.congr {Ends Ends' : Turn κ → Prop} {status : Status} {lines : List Text}
    {turns : List (Turn κ)} {r : LinesRun κ}
    (h : RunsUpTo perform Ends status lines w turns r)
    (hends : ∀ t ∈ turns, (Ends t ↔ Ends' t)) :
    RunsUpTo perform Ends' status lines w turns r where
  reads := h.reads.congr hends
  takes_turns := h.takes_turns
  started := h.started
  finished := h.finished
  status_eq := h.status_eq
  exitRequested_iff := h.exitRequested_iff.trans
    (exists_congr fun t => and_congr_right fun ht => hends t ht)

/-! ### Lines in a row -/

/-- The status of the line before matters if no line is run, and only then. -/
theorem runLinesFrom_eq (status status' : Status) (lines : List Text) :
    runLinesFrom perform status lines w =
      { runLinesFrom perform status' lines w with
        status := if lines.all Text.isAllBlank then status
          else (runLinesFrom perform status' lines w).status } := by
  -- up to the first line that is not blank, which replaces either status
  induction lines with
  | nil => rfl
  | cons line rest ih =>
    cases hblank : Text.isAllBlank line with
    | true =>
      rw [runLinesFrom_cons_of_blank hblank, runLinesFrom_cons_of_blank hblank, ih, List.all_cons,
        hblank, Bool.true_and]
    | false =>
      have hstatus : runLinesFrom perform status (line :: rest) w =
          runLinesFrom perform status' (line :: rest) w := by
        cases hflag : (runLine perform line w).world.exitRequested with
        | true =>
          rw [runLinesFrom_cons_of_raised hblank hflag, runLinesFrom_cons_of_raised hblank hflag]
        | false =>
          rw [runLinesFrom_cons_of_not_raised hblank hflag,
            runLinesFrom_cons_of_not_raised hblank hflag]
      rw [hstatus, List.all_cons, hblank, Bool.false_and, if_neg Bool.false_ne_true]

/-- **Lines in a row** run as the first of them do and, if these leave the flag down, as the others
do behind them. -/
theorem runLinesFrom_append (status : Status) (lines more : List Text)
    (hdown : w.exitRequested = false) :
    runLinesFrom perform status (lines ++ more) w =
      let r := runLinesFrom perform status lines w
      if r.world.exitRequested then { r with unread := r.unread ++ more }
      else (runLinesFrom perform r.status more r.world).after r.notes := by
  -- the first lines are gone through twice, on either side with the same branches
  induction lines generalizing status w with
  | nil =>
    rw [List.nil_append, runLinesFrom]
    simp only [hdown, Bool.false_eq_true, if_false, LinesRun.after, List.nil_append]
  | cons line rest ih =>
    rw [List.cons_append]
    cases hblank : Text.isAllBlank line with
    | true => rw [runLinesFrom_cons_of_blank hblank, runLinesFrom_cons_of_blank hblank, ih _ hdown]
    | false =>
      cases hflag : (runLine perform line w).world.exitRequested with
      | true =>
        rw [runLinesFrom_cons_of_raised hblank hflag, runLinesFrom_cons_of_raised hblank hflag]
        simp only [hflag, if_true]
      | false =>
        rw [runLinesFrom_cons_of_not_raised hblank hflag,
          runLinesFrom_cons_of_not_raised hblank hflag, ih _ hflag]
        generalize runLinesFrom perform _ rest _ = r
        -- either way the notes of the line come before all others
        cases hr : r.world.exitRequested with
        | true => simp only [LinesRun.after, hr, if_true]
        | false =>
          simp only [LinesRun.after, hr, Bool.false_eq_true, if_false, List.append_assoc]

/-- **The same from the beginning**, where the status of the second lines counts if one of them is
run. -/
theorem runLines_append (lines more : List Text) (hdown : w.exitRequested = false) :
    runLines perform (lines ++ more) w =
      let r := runLines perform lines w
      let s := runLines perform more r.world
      if r.world.exitRequested then { r with unread := r.unread ++ more }
      else ⟨if more.all Text.isAllBlank then r.status else s.status, s.world, s.unread,
        r.notes ++ s.notes⟩ := by
  rw [runLines, runLinesFrom_append _ lines more hdown, runLines]
  simp only
  split
  · rfl
  · rw [runLinesFrom_eq _ .success more]
    rfl

/-- One line alone leaves the world that it leaves, blank or not. -/
theorem world_runLines_singleton (line : Text) :
    (runLines perform [line] w).world = (runLine perform line w).world := by
  rw [runLines]
  cases hblank : Text.isAllBlank line with
  | true => rw [runLinesFrom_cons_of_blank hblank, runLine_of_blank hblank, runLinesFrom]
  | false =>
    cases hflag : (runLine perform line w).world.exitRequested with
    | true => rw [runLinesFrom_cons_of_raised hblank hflag]
    | false => rw [runLinesFrom_cons_of_not_raised hblank hflag, runLinesFrom, LinesRun.after]

/-- Behind a line that leaves the flag down, the others run where it has ended, blank or not. -/
theorem world_runLines_cons {line : Text}
    (hdown : (runLine perform line w).world.exitRequested = false) (rest : List Text) :
    (runLines perform (line :: rest) w).world =
      (runLines perform rest (runLine perform line w).world).world := by
  rw [runLines, runLines]
  cases hblank : Text.isAllBlank line with
  | true => rw [runLinesFrom_cons_of_blank hblank, runLine_of_blank hblank]
  | false =>
    rw [runLinesFrom_cons_of_not_raised hblank hdown, runLinesFrom_eq _ .success rest]
    rfl

/-! ### Sessions that hold no commands but builtins -/

/-- **Lines are run up to the first during which `exit` or `quit` is called**, and lines in a row
run as the first of them do and then, unless the session has ended, as the others do. -/
theorem runLines_up_to_exit {embed : Builtin → κ} (hholds : HoldsBuiltins perform embed w)
    (hdown : w.exitRequested = false) (lines : List Text) :
    (∃ turns, RunsUpTo perform (Turn.CallsExit perform) .success lines w turns
      (runLines perform lines w)) ∧
    ∀ more, runLines perform (lines ++ more) w =
      let r := runLines perform lines w
      let s := runLines perform more r.world
      if r.world.exitRequested then { r with unread := r.unread ++ more }
      else ⟨if more.all Text.isAllBlank then r.status else s.status, s.world, s.unread,
        r.notes ++ s.notes⟩ := by
  obtain ⟨turns, h⟩ := exists_runsUpTo perform .success lines hdown
  refine ⟨⟨turns, h.congr ?_⟩, fun more => runLines_append lines more hdown⟩
  -- every line is run in a session of builtins, and with the flag down
  have hall := h.takes_turns.keeps (P := HoldsBuiltins perform embed)
    (fun line v hv => (hv.runLine line).1) hholds
  intro t ht
  refine ((hall t ht).runLine t.line).2.trans ?_
  rw [h.started t ht]
  exact or_iff_right Bool.false_ne_true

/-- Four lines, with a call of `exit` that is skipped in the first, and one in the middle of the
third. -/
def midLineExit : List Text := ["false & exit", " ", "exit ; false", "echo late"]

/-- A line behind them. -/
def lineBehind : Text := "true"

/-- The first call of `exit` is skipped and does not count. The second one ends the session, and
what follows it in its line still runs, and fails. -/
theorem runLines_up_to_exit_midLine :
    HoldsBuiltins Builtin.perform id (start id) ∧
      ∃ turns, RunsUpTo Builtin.perform (Turn.CallsExit Builtin.perform) .success midLineExit
        (start id) turns (runLines Builtin.perform midLineExit (start id)) ∧
      (runLines Builtin.perform midLineExit (start id)).unread = midLineExit.drop 3 ∧
      (runLines Builtin.perform (midLineExit ++ [lineBehind]) (start id)).unread =
        midLineExit.drop 3 ++ [lineBehind] ∧
      (runLines Builtin.perform (midLineExit ++ [lineBehind]) (start id)).status = .failure := by
  have hholds : HoldsBuiltins Builtin.perform id (start id) := holdsBuiltins_start fun _ => rfl
  obtain ⟨⟨turns, hruns⟩, hmore⟩ := runLines_up_to_exit hholds rfl midLineExit
  have hends : (runLines Builtin.perform midLineExit (start id)).world.exitRequested = true ∧
      (runLines Builtin.perform midLineExit (start id)).unread = midLineExit.drop 3 ∧
      (runLines Builtin.perform midLineExit (start id)).status = .failure := by decide +kernel
  obtain ⟨hraised, hunread, hstatus⟩ := hends
  have hmoreEq := hmore [lineBehind]
  simp only [hraised, if_true] at hmoreEq
  refine ⟨hholds, turns, hruns, hunread, ?_, ?_⟩
  · rw [hmoreEq, hunread]
  · rw [hmoreEq, hstatus]

end CommandConsole.Session
