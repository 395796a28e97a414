import CommandConsole.Proofs.Chain.Blocks
import CommandConsole.Session

/-!
# Running one line

A session runs a line or rejects it, and the resolver decides which. What a line comes to is stated
for both cases:

* `Session.Rejects`, a line with a syntax error: the world is as before but for one report on the
  error stream, and what the callbacks would do makes no difference, as none is called;
* `Session.Carries`, any other line: its chain runs in blocks, the world is handed from call to call
  (`Chain.Threads`), and what the last call leaves is what the line leaves. Whether it replied with
  a success decides between the two ways in which such a line can end.

`Session.runLine_rejects_or_carries` puts them together. That it holds for errors late in a line
rests on the order of things: the whole line is resolved before anything runs. A blank line is no
exception to this, although it is not shown to the resolver (`Console.resolve_eq`).
-/

namespace CommandConsole

/-! ### Blank lines -/

/-- A blank line resolves to the empty chain, and no name is looked up. -/
theorem Chain.resolve_of_isAllBlank {κ : Type} {line : Text} (h : Text.isAllBlank line = true)
    (lookup : Lookup κ) : Chain.resolve lookup line = .pure .empty := by
  rw [resolve, Token.tokenize_of_isAllBlank h]
  rfl

variable {κ : Type}

/-- **The short way for blank lines is only short.** -/
theorem Console.resolve_eq (registry : Registry κ) (line : Text) :
    Console.resolve registry line = Chain.resolve registry.find? line := by
  rw [resolve]
  split
  · next hblank =>
    rw [List.isEmpty_iff, Text.trim_eq_nil_iff] at hblank
    rw [Chain.resolve_of_isAllBlank hblank]
  · rfl

/-- A console resolves lines against its registry. -/
theorem Console.parse_eq (registry : Registry κ) (line : Text) :
    Console.parse registry line = Chain.parse registry.find? line := by
  rw [parse, resolve_eq, Chain.parse]

/-- A console runs the chain that a line resolves to. -/
theorem Console.execute_of_parse {perform : Perform κ} {line : Text} {w : World κ}
    {chain : Chain κ} (h : Chain.parse w.registry.find? line = .ok chain) :
    execute perform line w = .ok (chain.run perform w) := by
  rw [execute, parse_eq, h, Except.map]

namespace Chain

variable {perform : Perform κ}

/-! ### From call to call -/

/-- **Calls in a row**: each is made in the world that the one before it left. -/
inductive Threads (perform : Perform κ) : World κ → List (Call κ) → World κ → Prop where
  | nil {w : World κ} : Threads perform w [] w
  | cons {w w' w'' : World κ} {i : Invocation κ} {calls : List (Call κ)} {reply : Reply}
      (hcall : Call.reply perform ⟨i, w⟩ = (reply, w')) (hrest : Threads perform w' calls w'') :
      Threads perform w (⟨i, w⟩ :: calls) w''

/-- **Only calls change the world.** -/
theorem Runs.threads {ok ok' : Bool} {w w' : World κ} {is : List (Invocation κ)}
    {calls : List (Call κ)} {traces : List Trace} (h : Runs perform ok w is calls traces ok' w') :
    Threads perform w calls w' := by
  induction h with
  | done => exact .nil
  | call _ hcall _ _ ih => exact .cons hcall ih
  | skip _ _ ih => exact ih

/-- The calls are invocations of the chain, in its order. -/
theorem Runs.sublist_calls {ok ok' : Bool} {w w' : World κ} {is : List (Invocation κ)}
    {calls : List (Call κ)} {traces : List Trace} (h : Runs perform ok w is calls traces ok' w') :
    (calls.map Call.invocation).Sublist is := by
  induction h with
  | done => exact List.Sublist.refl []
  | call _ _ _ _ ih => exact ih.cons_cons _
  | skip _ _ ih => exact ih.cons _

end Chain

namespace Status

theorem ofSuccess_eq_success_iff {success : Bool} :
    ofSuccess success = .success ↔ success = true := by
  cases success <;> decide

theorem ofSuccess_eq_failure_iff {success : Bool} :
    ofSuccess success = .failure ↔ ¬success = true := by
  cases success <;> decide

end Status

namespace Session

open Chain (Call Threads RunsBlocks blocks)

/-! ### The two cases -/

/-- **A line that is rejected**, with the error that it is rejected for. -/
structure Rejects (perform : Perform κ) (line : Text) (w : World κ) (e : SyntaxError) : Prop where
  status_eq : (runLine perform line w).status = .rejected
  /-- No callback is called: it does not matter what any of them would do. -/
  uncalled : ∀ perform', runLine perform' line w = runLine perform line w
  /-- Nothing in the world changes but the error stream, and that only if it can be written to:
  one report comes behind what is there. -/
  world_eq : (runLine perform line w).world =
    if w.err.full then w
    else { w with err := { w.err with written :=
      w.err.written ++ ("error: " ++ e.message ++ "\n" ++ e.snippet line 40 ++ "\n") } }

/-- **A line that is carried out**, with the chain that it resolves to and the calls that are
made. -/
structure Carries (perform : Perform κ) (line : Text) (w : World κ) (chain : Chain κ)
    (calls : List (Call κ)) : Prop where
  /-- The chain runs in blocks, and where it ends the line ends. -/
  exists_runsBlocks : ∃ e, Console.execute perform line w = .ok e ∧
    RunsBlocks perform w (blocks chain.invocations) calls e.traces (runLine perform line w).world
  /-- The calls are made in the order of the chain. -/
  sublist : (calls.map Call.invocation).Sublist chain.invocations
  /-- The calls alone change the world, so a line writes to the error stream what its callbacks
  write, and nothing else. -/
  threads : Threads perform w calls (runLine perform line w).world
  /-- The line is a success if the last call was one, or if none was made. -/
  success_iff : (runLine perform line w).status = .success ↔
    ∀ c, calls.getLast? = some c → (c.reply perform).1 = .success
  /-- It is a failure if the last call was no success, whatever else it was. -/
  failure_iff : (runLine perform line w).status = .failure ↔
    ∃ c, calls.getLast? = some c ∧ (c.reply perform).1 ≠ .success

/-- A report says something; it ends a line at least. -/
theorem report_ne_nil (line : Text) (e : SyntaxError) : report line e ≠ [] :=
  List.append_ne_nil_of_right_ne_nil _ (List.cons_ne_nil '\n' [])

/-- A line with a syntax error is rejected. -/
theorem rejects_of_parse {line : Text} {w : World κ} {e : SyntaxError}
    (h : Chain.parse w.registry.find? line = .error e) (perform : Perform κ) :
    Rejects perform line w e := by
  -- the line is resolved against the registry as it is, whatever the callbacks would do
  have hexecute : ∀ perform', Console.execute perform' line w = .error e := by
    intro perform'
    rw [Console.execute, Console.parse_eq, h, Except.map]
  have huncalled : ∀ perform', runLine perform' line w = runLine perform line w := by
    intro perform'
    rw [runLine, runLine, hexecute, hexecute]
  cases hfull : w.err.full with
  | true =>
    have hwrite := Output.write_of_full hfull (report_ne_nil line e)
    refine ⟨?_, huncalled, ?_⟩
    · simp only [runLine, hexecute, hwrite]
    · simp only [runLine, hexecute, hwrite, hfull, if_pos]
  | false =>
    have hwrite := Output.write_of_not_full hfull (report line e)
    refine ⟨?_, huncalled, ?_⟩
    · simp only [runLine, hexecute, hwrite]
    · simp only [runLine, hexecute, hwrite, Output.append, hfull, if_neg Bool.false_ne_true]
      rfl

/-- Any other line is carried out. -/
theorem exists_carries_of_parse {line : Text} {w : World κ} {chain : Chain κ}
    (h : Chain.parse w.registry.find? line = .ok chain) (perform : Perform κ) :
    ∃ calls, Carries perform line w chain calls := by
  have hexecute : Console.execute perform line w = .ok (chain.run perform w) :=
    Console.execute_of_parse h
  obtain ⟨calls, hruns⟩ := Chain.exists_runs_runFrom perform true chain.invocations w
  have hworld : (runLine perform line w).world = (chain.run perform w).world := by
    simp only [runLine, hexecute]
  have hstatus : (runLine perform line w).status = .ofSuccess (chain.run perform w).success := by
    simp only [runLine, hexecute]
  -- the first call is independent, so it is as if a success came before the line
  have hblocks := hruns.runsBlocks fun i hi => by
    rw [Chain.independent_of_head? h hi, Bool.true_or]
  refine ⟨calls, ⟨chain.run perform w, hexecute, ?_⟩, hruns.sublist_calls, ?_, ?_, ?_⟩
  · rw [hworld]
    exact hblocks
  · rw [hworld]
    exact hruns.threads
  · rw [hstatus, Status.ofSuccess_eq_success_iff]
    exact hruns.success_iff
  · -- no success at all would be a success, so there is a last call
    rw [hstatus, Status.ofSuccess_eq_failure_iff]
    refine (not_congr hruns.success_iff).trans ?_
    simp only [Classical.not_forall, exists_prop]

/-- A line that is carried out is not rejected. -/
theorem Carries.status_ne {perform : Perform κ} {line : Text} {w : World κ} {chain : Chain κ}
    {calls : List (Call κ)} (h : Carries perform line w chain calls) :
    (runLine perform line w).status ≠ .rejected := by
  by_cases hlast : ∀ c, calls.getLast? = some c → (c.reply perform).1 = .success
  · rw [h.success_iff.2 hlast]
    exact Status.noConfusion
  · simp only [Classical.not_forall, exists_prop] at hlast
    rw [h.failure_iff.2 hlast]
    exact Status.noConfusion

/-- **A line is rejected exactly if it has a syntax error**, and then it is as if it had not been
there, but for the report. Otherwise it is carried out. -/
theorem runLine_rejects_or_carries (perform : Perform κ) (line : Text) (w : World κ) :
    ((runLine perform line w).status = .rejected ↔
      ∃ e, Chain.parse w.registry.find? line = .error e) ∧
    match Chain.parse w.registry.find? line with
    | .error e => Rejects perform line w e
    | .ok chain => ∃ calls, Carries perform line w chain calls := by
  cases hparse : Chain.parse w.registry.find? line with
  | error e =>
    have h := rejects_of_parse hparse perform
    exact ⟨iff_of_true h.status_eq ⟨e, rfl⟩, h⟩
  | ok chain =>
    obtain ⟨calls, h⟩ := exists_carries_of_parse hparse perform
    exact ⟨iff_of_false h.status_ne nofun, calls, h⟩

/-- Two commands that do nothing but reply, and an earlier report. -/
def twoReplies : World Reply :=
  { (World.empty : World Reply) with
    registry := ⟨[("true", .plain "true" .success), ("false", .plain "false" .failure)]⟩
    err := ⟨"earlier\n", false, []⟩ }

/-- Replies as told. -/
def replying : Perform Reply := fun reply _ w => (reply, w)

/-- A line with two calls in front of a malformed flag. -/
def faultyLine : Text := "true; false ?n & true ?- b"

/-- A line that fails, and one that is rejected, with its report behind the earlier one. -/
theorem runLine_rejects_or_carries_report :
    (runLine replying "false & true" twoReplies).status = .failure ∧
    (∃ chain calls c, Carries replying "false & true" twoReplies chain calls ∧
      calls.getLast? = some c ∧ (c.reply replying).1 ≠ .success) ∧
    (∀ perform, runLine perform faultyLine twoReplies = runLine replying faultyLine twoReplies) ∧
    (runLine replying faultyLine twoReplies).status = .rejected ∧
    (runLine replying faultyLine twoReplies).world =
      { twoReplies with err := { twoReplies.err with written :=
        "earlier\n" ++ "error: flags must only contain letters: '?-' at position 22\n" ++
          "true; false ?n & true ?- b\n" ++ "                      ^^\n" } } := by
  have hstatus : (runLine replying "false & true" twoReplies).status = .failure := by
    decide +kernel
  refine ⟨hstatus, ?_, ?_⟩
  · obtain ⟨-, hcarries⟩ := runLine_rejects_or_carries replying "false & true" twoReplies
    obtain ⟨chain, hchain⟩ := Chain.exists_eq_ok_of_isOk
      (show (Chain.parse twoReplies.registry.find? "false & true").isOk = true by decide +kernel)
    rw [hchain] at hcarries
    obtain ⟨calls, hcarries⟩ := hcarries
    obtain ⟨c, hlast, hreply⟩ := hcarries.failure_iff.1 hstatus
    exact ⟨chain, calls, c, hcarries, hlast, hreply⟩
  · obtain ⟨-, hrejects⟩ := runLine_rejects_or_carries replying faultyLine twoReplies
    have herror : (match Chain.parse twoReplies.registry.find? faultyLine with
        | .error e => some e
        | .ok _ => none) = some (.malformedFlag "?-" ⟨22, 24⟩) := by decide +kernel
    -- the two calls in front resolve, and the line is rejected all the same
    cases hparse : Chain.parse twoReplies.registry.find? faultyLine with
    | ok => simp [hparse] at herror
    | error e =>
      rw [hparse] at hrejects herror
      obtain rfl := Option.some.inj herror
      refine ⟨hrejects.uncalled, hrejects.status_eq, hrejects.world_eq.trans ?_⟩
      decide +kernel

end Session

end CommandConsole
