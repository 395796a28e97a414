import CommandConsole.Proofs.Session.Line

/-!
# A line that is gone through to its end

`Console.Executes` says all that comes of a line that can be resolved: the chain it resolves to, the
calls made, and the execution. Every line that can be resolved has one (`Console.exists_executes`),
and it decides how a session is left by the line (`Console.Executes.world_runLine`,
`Console.Executes.status_runLine`).

What a session keeps or changes can then be shown call by call. A property of worlds that every
command of the registry keeps is kept by the whole line (`Chain.Runs.keeps`), because a chain calls
no command but those of the registry it was resolved against
(`Chain.mem_registry_of_parse`).
-/

namespace CommandConsole

variable {κ : Type}

namespace Chain

variable {perform : Perform κ}

/-- **The rules leave the loop no choice** of what it records and of the world it ends in. -/
theorem Runs.runFrom_eq {ok ok' : Bool} {w w' : World κ} {is : List (Invocation κ)}
    {calls : List (Call κ)} {traces : List Trace} (h : Runs perform ok w is calls traces ok' w') :
    (runFrom perform ok is w).traces = traces ∧ (runFrom perform ok is w).success = ok' ∧
      (runFrom perform ok is w).world = w' := by
  induction h with
  | done => exact ⟨rfl, rfl, rfl⟩
  | call hrun hcall hrecord _ ih =>
    obtain ⟨htraces, hsuccess, hworld⟩ := ih
    rw [runFrom_cons_of_run hrun hcall hrecord]
    exact ⟨congrArg (_ :: ·) htraces, hsuccess, hworld⟩
  | skip hskip _ ih =>
    obtain ⟨htraces, hsuccess, hworld⟩ := ih
    rw [runFrom_cons_of_skip hskip]
    exact ⟨congrArg (_ :: ·) htraces, hsuccess, hworld⟩

/-- **What every callback keeps, a run keeps.** -/
theorem Runs.keeps {P : World κ → Prop} {ok ok' : Bool} {w w' : World κ}
    {is : List (Invocation κ)} {calls : List (Call κ)} {traces : List Trace}
    (h : Runs perform ok w is calls traces ok' w')
    (hstep : ∀ i ∈ is, ∀ v, P v → P (perform i.command.action i v).2) (hw : P w) : P w' := by
  -- only the rule for a call leads to another world
  induction h with
  | done => exact hw
  | @call _ _ w _ _ i _ _ _ _ _ _ hcall _ _ ih =>
    refine ih (fun j hj => hstep j (List.mem_cons_of_mem _ hj)) ?_
    have hcalled := hstep i List.mem_cons_self w hw
    rw [Call.reply] at hcall
    rwa [hcall] at hcalled
  | skip _ _ ih => exact ih (fun j hj => hstep j (List.mem_cons_of_mem _ hj)) hw

/-- **A line calls commands of the registry only**, the one it is resolved against. -/
theorem mem_registry_of_parse {registry : Registry κ} {line : Text} {chain : Chain κ}
    (h : parse registry.find? line = .ok chain) {i : Invocation κ} (hi : i ∈ chain.invocations) :
    i.command ∈ registry.commands := by
  obtain ⟨tokens, -, -, rfl⟩ := exists_sound_of_parse h
  obtain ⟨s, -, command, independent, hcommand, rfl⟩ := exists_segment_of_mem_invocationsOf hi
  exact Registry.mem_commands_of_find? hcommand

end Chain

namespace Console

open Chain (Call Runs)

/-- **A line is gone through to its end**: it resolves to a chain, these calls are made, and the
execution records every invocation of the chain and ends in the world behind the last of them. -/
structure Executes (perform : Perform κ) (line : Text) (w : World κ) (chain : Chain κ)
    (calls : List (Call κ)) (e : Execution κ) : Prop where
  parse_eq : Chain.parse w.registry.find? line = .ok chain
  execute_eq : execute perform line w = .ok e
  runs : Runs perform true w chain.invocations calls e.traces e.success e.world

variable {perform : Perform κ} {line : Text} {w : World κ} {chain : Chain κ}

/-- **Every line that can be resolved is gone through to its end.** -/
theorem exists_executes (perform : Perform κ)
    (h : Chain.parse w.registry.find? line = .ok chain) :
    ∃ calls e, Executes perform line w chain calls e := by
  obtain ⟨calls, hruns⟩ := Chain.exists_runs_runFrom perform true chain.invocations w
  exact ⟨calls, chain.run perform w, h, execute_of_parse h, hruns⟩

/-- A run of its chain by the rules is the execution of a line. -/
theorem exists_executes_of_runs {calls : List (Call κ)} {traces : List Trace} {ok : Bool}
    {w' : World κ} (h : Chain.parse w.registry.find? line = .ok chain)
    (hruns : Runs perform true w chain.invocations calls traces ok w') :
    ∃ e, Executes perform line w chain calls e ∧ e.traces = traces ∧ e.success = ok ∧
      e.world = w' := by
  obtain ⟨rfl, rfl, rfl⟩ := hruns.runFrom_eq
  exact ⟨chain.run perform w, ⟨h, execute_of_parse h, hruns⟩, rfl, rfl, rfl⟩

namespace Executes

variable {calls : List (Call κ)} {e : Execution κ}

/-- **The line leaves a session in the world its execution ends in.** -/
theorem world_runLine (h : Executes perform line w chain calls e) :
    (Session.runLine perform line w).world = e.world := by
  simp only [Session.runLine, h.execute_eq]

theorem status_runLine (h : Executes perform line w chain calls e) :
    (Session.runLine perform line w).status = .ofSuccess e.success := by
  simp only [Session.runLine, h.execute_eq]

end Executes

end Console

theorem Session.Rejects.keeps {perform : Perform κ} {line : Text} {w : World κ} {e : SyntaxError}
    (h : Rejects perform line w e) :
    (runLine perform line w).world.registry = w.registry ∧
      (runLine perform line w).world.exitRequested = w.exitRequested := by
  rw [h.world_eq]
  split
  · exact ⟨rfl, rfl⟩
  · exact ⟨rfl, rfl⟩

end CommandConsole
