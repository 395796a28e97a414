import CommandConsole.Proofs.Session.Execution

/-!
# Sessions that hold no commands but builtins

A builtin can print, and `exit` and `quit` can raise the flag that ends the session. That is all
(`Builtin.exists_perform_eq`): no builtin registers or removes a command, writes to the error stream
or into the journal, or lowers the flag.

So a session that holds no commands but builtins (`Session.HoldsBuiltins`) goes on to hold no
others, and the flag tells what was called: after a line it is raised if it was raised before, or if
`exit` or `quit` was called while the line ran, and not otherwise (`Session.HoldsBuiltins.runLine`).
The argument goes call by call (`Chain.Runs.exitRequested_iff`), so a call that is skipped does not
count, and neither does a call in a line that is rejected.
-/

namespace CommandConsole

variable {κ : Type}

/-! ### What a builtin can do -/

/-- Printing changes the output and nothing else. -/
theorem World.exists_print_eq (w : World κ) (reply : Reply) (ps : List Print) :
    ∃ reply' out, w.print reply ps = (reply', { w with out }) := by
  induction ps generalizing w with
  | nil => exact ⟨reply, w.out, rfl⟩
  | cons p rest ih =>
    unfold World.print
    split
    · exact ⟨_, _, rfl⟩
    · next out _ => exact ih { w with out }

/-- **All that a builtin can do** is print and, if it is the one for that, end the session. -/
theorem Builtin.exists_perform_eq (b : Builtin) (i : Invocation κ) (w : World κ) :
    ∃ reply out, b.perform i w =
      (reply, { w with out, exitRequested := w.exitRequested || b == .exit }) := by
  -- what only prints leaves the flag as it is
  have hprint : ∀ (reply : Reply) (ps : List Print), ∃ reply' out, w.print reply ps =
      (reply', { w with out, exitRequested := w.exitRequested || false }) := by
    intro reply ps
    rw [Bool.or_false]
    exact w.exists_print_eq reply ps
  cases b with
  | help =>
    simp only [perform, performHelp]
    split
    · unfold performListing
      split
      · exact hprint _ _
      · exact hprint (.panic _) []
    · split
      · exact hprint _ _
      · exact hprint _ _
  | echo => exact hprint _ _
  | exit => exact ⟨.success, w.out, by rw [perform, beq_self_eq_true, Bool.or_true]⟩
  -- the others reply as if they had printed nothing
  | succeed => exact hprint .success []
  | refuse => exact hprint .failure []
  | fail => exact hprint (.error _) []
  | panic => exact hprint (.panic _) []

/-- **A call that ends the session**, by its name. -/
def Invocation.EndsSession (i : Invocation κ) : Prop := i.name = "exit" ∨ i.name = "quit"

theorem Builtin.action_eq_exit_iff :
    ∀ c ∈ Builtin.commands, c.action = .exit ↔ c.name = "exit" ∨ c.name = "quit" := by
  decide

/-- **A session that holds no commands but builtins.** `embed` says which action each of them
has. -/
structure Session.HoldsBuiltins (perform : Perform κ) (embed : Builtin → κ) (w : World κ) :
    Prop where
  commands : ∀ c ∈ w.registry.commands, ∃ b ∈ Builtin.commands, c = b.map embed
  perform_eq : ∀ b : Builtin, perform (embed b) = b.perform

theorem Session.holdsBuiltins_start {perform : Perform κ} {embed : Builtin → κ}
    (hperform : ∀ b : Builtin, perform (embed b) = b.perform) :
    HoldsBuiltins perform embed (start embed) := by
  have hcommands : (start embed).registry.commands = Builtin.commands.map (Command.map embed) := by
    rfl
  refine ⟨?_, hperform⟩
  intro c hc
  rw [hcommands] at hc
  obtain ⟨b, hb, rfl⟩ := List.mem_map.1 hc
  exact ⟨b, hb, rfl⟩

variable {perform : Perform κ} {embed : Builtin → κ} {w : World κ}

/-! ### Call by call -/

/-- A call in such a session leaves the commands there are, and raises the flag if its name says
so. -/
theorem Session.HoldsBuiltins.call (h : HoldsBuiltins perform embed w) {i : Invocation κ}
    (hi : i.command ∈ w.registry.commands) :
    (perform i.command.action i w).2.registry = w.registry ∧
      ((perform i.command.action i w).2.exitRequested = true ↔
        w.exitRequested = true ∨ i.EndsSession) := by
  obtain ⟨b, hb, hcommand⟩ := h.commands i.command hi
  obtain ⟨reply, out, hreply⟩ := b.action.exists_perform_eq i w
  have haction : perform i.command.action = b.action.perform := by
    rw [hcommand]
    exact h.perform_eq b.action
  have hname : i.name = b.name := congrArg Command.name hcommand
  rw [haction, hreply, Invocation.EndsSession, hname, ← Builtin.action_eq_exit_iff b hb]
  exact ⟨rfl, by rw [Bool.or_eq_true, beq_iff_eq]⟩

theorem Session.HoldsBuiltins.of_registry_eq (h : HoldsBuiltins perform embed w) {w' : World κ}
    (hregistry : w'.registry = w.registry) : HoldsBuiltins perform embed w' :=
  ⟨hregistry ▸ h.commands, h.perform_eq⟩

/-- **After a run the flag tells what was called.** -/
theorem Chain.Runs.exitRequested_iff {ok ok' : Bool} {w' : World κ} {is : List (Invocation κ)}
    {calls : List (Call κ)} {traces : List Trace} (h : Runs perform ok w is calls traces ok' w')
    (hholds : Session.HoldsBuiltins perform embed w)
    (his : ∀ i ∈ is, i.command ∈ w.registry.commands) :
    w'.registry = w.registry ∧ (w'.exitRequested = true ↔
      w.exitRequested = true ∨ ∃ c ∈ calls, c.invocation.EndsSession) := by
  -- on the rules of the run; that the registry is kept makes the step for the calls behind
  induction h with
  | done => exact ⟨rfl, by simp⟩
  | @call _ _ w w₁ _ i rest calls _ _ _ _ hcall _ _ ih =>
    obtain ⟨hregistry, hflag⟩ := hholds.call (his i List.mem_cons_self)
    rw [Call.reply] at hcall
    rw [hcall] at hregistry hflag
    -- the commands are as before, so the rest of the chain is of builtins too
    have hrest : ∀ j ∈ rest, j.command ∈ w₁.registry.commands := by
      intro j hj
      rw [show w₁.registry = w.registry from hregistry]
      exact his j (List.mem_cons_of_mem i hj)
    obtain ⟨hregistry', hflag'⟩ := ih (hholds.of_registry_eq hregistry) hrest
    refine ⟨hregistry'.trans hregistry, ?_⟩
    rw [hflag', hflag, or_assoc]
    simp only [List.mem_cons, exists_eq_or_imp]
  | skip _ _ ih =>
    -- a call that is skipped is not among the calls
    exact ih hholds fun j hj => his j (List.mem_cons_of_mem _ hj)

/-! ### Line by line -/

/-- **A line during which the session is ended**: `exit` or `quit` is among the calls that are made
when it runs. -/
def Session.CallsExit (perform : Perform κ) (line : Text) (w : World κ) : Prop :=
  ∃ chain calls e, Console.Executes perform line w chain calls e ∧
    ∃ c ∈ calls, c.invocation.EndsSession

/-- **After a line the flag tells what was called while it ran**, and the session still holds no
commands but builtins. -/
theorem Session.HoldsBuiltins.runLine (h : HoldsBuiltins perform embed w) (line : Text) :
    HoldsBuiltins perform embed (Session.runLine perform line w).world ∧
      ((Session.runLine perform line w).world.exitRequested = true ↔
        w.exitRequested = true ∨ CallsExit perform line w) := by
  -- whatever execution of the line is looked at, it tells the same
  have hexecutes : ∀ {chain calls e}, Console.Executes perform line w chain calls e →
      (Session.runLine perform line w).world.registry = w.registry ∧
        ((Session.runLine perform line w).world.exitRequested = true ↔
          w.exitRequested = true ∨ ∃ c ∈ calls, c.invocation.EndsSession) := by
    intro chain calls e hline
    rw [hline.world_runLine]
    exact hline.runs.exitRequested_iff h fun i hi => Chain.mem_registry_of_parse hline.parse_eq hi
  cases hparse : Chain.parse w.registry.find? line with
  | error e =>
    -- a line that is rejected has no execution, so nothing was called
    obtain ⟨hregistry, hflag⟩ := (rejects_of_parse hparse perform).keeps
    refine ⟨h.of_registry_eq hregistry, ?_⟩
    rw [hflag]
    refine ⟨Or.inl, ?_⟩
    rintro (hraised | ⟨chain, calls, e', hline, -⟩)
    · exact hraised
    · rw [hline.parse_eq] at hparse
      cases hparse
  | ok chain =>
    obtain ⟨calls, e, hline⟩ := Console.exists_executes perform hparse
    obtain ⟨hregistry, hflag⟩ := hexecutes hline
    refine ⟨h.of_registry_eq hregistry, ?_, ?_⟩
    · intro hraised
      exact (hflag.1 hraised).imp_right fun hends => ⟨chain, calls, e, hline, hends⟩
    · rintro (hraised | ⟨chain', calls', e', hline', hends⟩)
      · exact hflag.2 (.inl hraised)
      · exact (hexecutes hline').2.2 (.inr hends)

end CommandConsole
