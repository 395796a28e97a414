import CommandConsole.Console
import CommandConsole.Proofs.Chain.Resolution

/-!
# Running a chain in blocks

`Chain.runFrom` carries one bit from invocation to invocation: whether the last one that ran
succeeded. The bit means something within a **block** only, an independent invocation and the
dependent ones right behind it (`Chain.blocks`). A block runs until the first call that does not
succeed, and what is left of it is skipped (`Chain.RunsBlock`); the blocks of a chain run one after
the other, whatever came of those before (`Chain.RunsBlocks`). How each reply is recorded is spelled
out by `Reply.RecordedAs`.

The main statement, `Chain.execute_runs_blocks`: a line that can be resolved runs the blocks of its
chain, as resolved against the registry before the first call, and leaves one record per invocation.
Both relations list the calls that are made, each with the world it is made in. The replies to these
calls decide everything (`Chain.Runs.runFrom_congr`): what a callback would do if called otherwise,
or a callback of a skipped invocation if called at all, does not matter.

In between stand the rules that the loop follows (`Chain.Runs`). They do not know about blocks, but
split where a chain is split (`Chain.Runs.exists_of_append`).
-/

namespace CommandConsole

/-! ### What is recorded of a reply -/

/-- **What is recorded of a reply.** A panic that says nothing readable is recorded all the same. -/
inductive Reply.RecordedAs : Reply → Outcome → Prop where
  | success : RecordedAs .success .succeeded
  | failure : RecordedAs .failure .failed
  | error {message : Text} : RecordedAs (.error message) (.errored message)
  | panic {message : Text} : RecordedAs (.panic (some message)) (.panicked message)
  | unreadable : RecordedAs (.panic none) (.panicked "unknown panic payload")

/-- Every reply is recorded in one way. -/
theorem Reply.recordedAs_iff {reply : Reply} {outcome : Outcome} :
    reply.RecordedAs outcome ↔ outcome = .ofReply reply := by
  constructor
  · rintro (_ | _ | _ | _ | _) <;> rfl
  · rintro rfl
    cases reply with
    | success => exact .success
    | failure => exact .failure
    | error message => exact .error
    | panic message? =>
      cases message? with
      | some message => exact .panic
      | none => exact .unreadable

/-- A record says whether the reply was a success. -/
theorem Reply.RecordedAs.isSuccess_eq {reply : Reply} {outcome : Outcome}
    (h : reply.RecordedAs outcome) : outcome.isSuccess = (reply == .success) := by
  cases h <;> rfl

/-- What is recorded of a reply is a record of something that ran. -/
theorem Reply.RecordedAs.ran {reply : Reply} {outcome : Outcome} (h : reply.RecordedAs outcome) :
    outcome.ran = true := by
  cases h <;> rfl

namespace Chain

variable {κ : Type}

/-- **Cutting a chain into blocks**: a new block starts at each independent invocation. -/
def blocks : List (Invocation κ) → List (List (Invocation κ))
  | [] => []
  | i :: rest =>
    (i :: rest.takeWhile fun j => !j.independent) :: blocks (rest.dropWhile fun j => !j.independent)
termination_by is => is.length
decreasing_by
  have := (List.dropWhile_sublist (fun j : Invocation κ => !j.independent) (l := rest)).length_le
  simp only [List.length_cons]
  omega

/-- **A call**: an invocation, and the world in which its command is called. -/
structure Call (κ : Type) where
  invocation : Invocation κ
  world : World κ

/-- The reply to a call, and the world it leaves. -/
def Call.reply (perform : Perform κ) (c : Call κ) : Reply × World κ :=
  perform c.invocation.command.action c.invocation c.world

/-- **How a block runs**: the calls made, the records left, and the world in the end. -/
inductive RunsBlock (perform : Perform κ) :
    World κ → List (Invocation κ) → List (Call κ) → List Trace → World κ → Prop where
  | done {w : World κ} : RunsBlock perform w [] [] [] w
  /-- A call that succeeds, after which the block goes on. -/
  | succeed {w w' w'' : World κ} {i : Invocation κ} {rest : List (Invocation κ)}
      {calls : List (Call κ)} {traces : List Trace}
      (hcall : Call.reply perform ⟨i, w⟩ = (.success, w'))
      (hrest : RunsBlock perform w' rest calls traces w'') :
      RunsBlock perform w (i :: rest) (⟨i, w⟩ :: calls)
        (⟨i.name, i.arguments, i.flags, i.span, .succeeded⟩ :: traces) w''
  /-- A call that does not succeed, after which the block is skipped. -/
  | stop {w w' : World κ} {i : Invocation κ} {rest : List (Invocation κ)} {reply : Reply}
      {outcome : Outcome} (hcall : Call.reply perform ⟨i, w⟩ = (reply, w'))
      (hreply : reply ≠ .success) (hrecord : reply.RecordedAs outcome) :
      RunsBlock perform w (i :: rest) [⟨i, w⟩]
        (⟨i.name, i.arguments, i.flags, i.span, outcome⟩ ::
          rest.map fun j => ⟨j.name, j.arguments, j.flags, j.span, .skipped⟩) w'

/-- **How blocks run**: each in the world the one before it left. -/
inductive RunsBlocks (perform : Perform κ) :
    World κ → List (List (Invocation κ)) → List (Call κ) → List Trace → World κ → Prop where
  | nil {w : World κ} : RunsBlocks perform w [] [] [] w
  | cons {w w' w'' : World κ} {block : List (Invocation κ)} {more : List (List (Invocation κ))}
      {calls calls' : List (Call κ)} {traces traces' : List Trace}
      (hblock : RunsBlock perform w block calls traces w')
      (hmore : RunsBlocks perform w' more calls' traces' w'') :
      RunsBlocks perform w (block :: more) (calls ++ calls') (traces ++ traces') w''

/-! ### The rules of the loop -/

/-- **The rules of the loop.** `Runs perform ok w is calls traces ok' w'`: after an invocation that
ended as `ok` says, `is` runs in the world `w`. -/
inductive Runs (perform : Perform κ) : Bool → World κ → List (Invocation κ) → List (Call κ) →
    List Trace → Bool → World κ → Prop where
  | done {ok : Bool} {w : World κ} : Runs perform ok w [] [] [] ok w
  | call {ok ok' : Bool} {w w' w'' : World κ} {i : Invocation κ} {rest : List (Invocation κ)}
      {calls : List (Call κ)} {traces : List Trace} {reply : Reply} {outcome : Outcome}
      (hrun : (i.independent || ok) = true) (hcall : Call.reply perform ⟨i, w⟩ = (reply, w'))
      (hrecord : reply.RecordedAs outcome)
      (hrest : Runs perform (reply == .success) w' rest calls traces ok' w'') :
      Runs perform ok w (i :: rest) (⟨i, w⟩ :: calls)
        (⟨i.name, i.arguments, i.flags, i.span, outcome⟩ :: traces) ok' w''
  | skip {ok ok' : Bool} {w w' : World κ} {i : Invocation κ} {rest : List (Invocation κ)}
      {calls : List (Call κ)} {traces : List Trace} (hskip : (i.independent || ok) = false)
      (hrest : Runs perform ok w rest calls traces ok' w') :
      Runs perform ok w (i :: rest) calls
        (⟨i.name, i.arguments, i.flags, i.span, .skipped⟩ :: traces) ok' w'

/-- An invocation that runs. -/
theorem runFrom_cons_of_run {perform : Perform κ} {ok : Bool} {w w' : World κ} {i : Invocation κ}
    {reply : Reply} {outcome : Outcome} (hrun : (i.independent || ok) = true)
    (hcall : Call.reply perform ⟨i, w⟩ = (reply, w')) (hrecord : reply.RecordedAs outcome)
    (rest : List (Invocation κ)) :
    runFrom perform ok (i :: rest) w =
      (runFrom perform (reply == .success) rest w').after (.ofInvocation i outcome)
        ((outcomeEvents i outcome).map w'.note) := by
  have hcallEq : Chain.call perform i w = (outcome, w') := by
    rw [Call.reply] at hcall
    rw [Chain.call, hcall, Reply.recordedAs_iff.1 hrecord]
  rw [runFrom, if_pos hrun, hcallEq, ← hrecord.isSuccess_eq]

/-- An invocation that is skipped. -/
theorem runFrom_cons_of_skip {perform : Perform κ} {ok : Bool} {w : World κ} {i : Invocation κ}
    (hskip : (i.independent || ok) = false) (rest : List (Invocation κ)) :
    runFrom perform ok (i :: rest) w =
      (runFrom perform ok rest w).after (.ofInvocation i .skipped)
        ((outcomeEvents i .skipped).map w.note) := by
  rw [runFrom, if_neg (by simp [hskip])]

/-- **The loop follows the rules.** -/
theorem exists_runs_runFrom (perform : Perform κ) (ok : Bool) (is : List (Invocation κ))
    (w : World κ) :
    ∃ calls, Runs perform ok w is calls (runFrom perform ok is w).traces
      (runFrom perform ok is w).success (runFrom perform ok is w).world := by
  induction is generalizing ok w with
  | nil => exact ⟨[], .done⟩
  | cons i rest ih =>
    cases hrun : i.independent || ok with
    | true =>
      obtain ⟨reply, w', hcall⟩ : ∃ reply w', Call.reply perform ⟨i, w⟩ = (reply, w') :=
        ⟨_, _, rfl⟩
      have hrecord : reply.RecordedAs (.ofReply reply) := Reply.recordedAs_iff.2 rfl
      obtain ⟨calls, h⟩ := ih (reply == .success) w'
      rw [runFrom_cons_of_run hrun hcall hrecord]
      exact ⟨⟨i, w⟩ :: calls, .call hrun hcall hrecord h⟩
    | false =>
      obtain ⟨calls, h⟩ := ih ok w
      rw [runFrom_cons_of_skip hrun]
      exact ⟨calls, .skip hrun h⟩

/-- **The replies to the calls decide the run.** A loop whose callbacks reply to these calls in the
same way runs in the same way. -/
theorem Runs.runFrom_congr {perform perform' : Perform κ} {ok ok' : Bool} {w w' : World κ}
    {is : List (Invocation κ)} {calls : List (Call κ)} {traces : List Trace}
    (h : Runs perform ok w is calls traces ok' w')
    (hagree : ∀ c ∈ calls, c.reply perform' = c.reply perform) :
    runFrom perform' ok is w = runFrom perform ok is w := by
  induction h with
  | done => rfl
  | call hrun hcall hrecord _ ih =>
    have hcall' := (hagree _ List.mem_cons_self).trans hcall
    rw [runFrom_cons_of_run hrun hcall hrecord, runFrom_cons_of_run hrun hcall' hrecord,
      ih fun c hc => hagree c (List.mem_cons_of_mem _ hc)]
  | skip hskip _ ih =>
    rw [runFrom_cons_of_skip hskip, runFrom_cons_of_skip hskip, ih hagree]

/-- There is one record per invocation, in order, which says what was called with what. -/
theorem Runs.map_traces {perform : Perform κ} {ok ok' : Bool} {w w' : World κ}
    {is : List (Invocation κ)} {calls : List (Call κ)} {traces : List Trace}
    (h : Runs perform ok w is calls traces ok' w') :
    traces.map (fun t => (t.name, t.arguments, t.flags, t.span)) =
      is.map fun i => (i.name, i.arguments, i.flags, i.span) := by
  induction h with
  | done => rfl
  | call _ _ _ _ ih => rw [List.map_cons, ih, List.map_cons]
  | skip _ _ ih => rw [List.map_cons, ih, List.map_cons]

/-- **The run succeeds like the last invocation that ran**, and like the one before all of them if
none ran. -/
theorem Runs.success_eq {perform : Perform κ} {ok ok' : Bool} {w w' : World κ}
    {is : List (Invocation κ)} {calls : List (Call κ)} {traces : List Trace}
    (h : Runs perform ok w is calls traces ok' w') :
    ok' = (((traces.filter fun t => t.outcome.ran).getLast?).map
      fun t => t.outcome.isSuccess).getD ok := by
  induction h with
  | done => rfl
  | call _ _ hrecord _ ih =>
    rw [List.filter_cons, if_pos hrecord.ran, List.getLast?_cons, ih, ← hrecord.isSuccess_eq]
    cases (List.filter (fun t : Trace => t.outcome.ran) _).getLast? <;> rfl
  | skip _ _ ih =>
    rw [List.filter_cons_of_neg (by simp [Outcome.ran])]
    exact ih

/-- **The run succeeds if the last reply was a success**, or if none was given after a success. -/
theorem Runs.success_eq_reply {perform : Perform κ} {ok ok' : Bool} {w w' : World κ}
    {is : List (Invocation κ)} {calls : List (Call κ)} {traces : List Trace}
    (h : Runs perform ok w is calls traces ok' w') :
    ok' = ((calls.getLast?).map fun c => (c.reply perform).1 == .success).getD ok := by
  induction h with
  | done => rfl
  | @call _ _ _ _ _ _ _ calls _ _ _ _ hcall _ _ ih =>
    rw [List.getLast?_cons, ih]
    cases calls.getLast? with
    | none => rw [Option.getD_none, Option.map_some, Option.getD_some, hcall]; rfl
    | some c => rfl
  | skip _ _ ih => exact ih

/-- A run after a success fails only if its last call does. -/
theorem Runs.success_iff {perform : Perform κ} {ok' : Bool} {w w' : World κ}
    {is : List (Invocation κ)} {calls : List (Call κ)} {traces : List Trace}
    (h : Runs perform true w is calls traces ok' w') :
    ok' = true ↔ ∀ c, calls.getLast? = some c → (c.reply perform).1 = .success := by
  rw [h.success_eq_reply]
  cases calls.getLast? <;> simp

/-- **The rules split where the chain is split.** -/
theorem Runs.exists_of_append {perform : Perform κ} {ok ok' : Bool} {w w' : World κ}
    {front back : List (Invocation κ)} {calls : List (Call κ)} {traces : List Trace}
    (h : Runs perform ok w (front ++ back) calls traces ok' w') :
    ∃ calls₁ traces₁ ok₁ w₁ calls₂ traces₂, Runs perform ok w front calls₁ traces₁ ok₁ w₁ ∧
      Runs perform ok₁ w₁ back calls₂ traces₂ ok' w' ∧ calls = calls₁ ++ calls₂ ∧
      traces = traces₁ ++ traces₂ := by
  induction front generalizing ok w calls traces with
  | nil => exact ⟨[], [], ok, w, calls, traces, .done, h, rfl, rfl⟩
  | cons i front ih =>
    cases h with
    | call hrun hcall hrecord hrest =>
      obtain ⟨calls₁, traces₁, ok₁, w₁, calls₂, traces₂, hfront, hback, rfl, rfl⟩ := ih hrest
      exact ⟨_, _, ok₁, w₁, calls₂, traces₂, .call hrun hcall hrecord hfront, hback, rfl, rfl⟩
    | skip hskip hrest =>
      obtain ⟨calls₁, traces₁, ok₁, w₁, calls₂, traces₂, hfront, hback, rfl, rfl⟩ := ih hrest
      exact ⟨_, _, ok₁, w₁, calls₂, traces₂, .skip hskip hfront, hback, rfl, rfl⟩

/-! ### From rules to blocks -/

/-- An invocation that runs in front is called. -/
theorem Runs.exists_call {perform : Perform κ} {ok ok' : Bool} {w w' : World κ} {i : Invocation κ}
    {rest : List (Invocation κ)} {calls : List (Call κ)} {traces : List Trace}
    (h : Runs perform ok w (i :: rest) calls traces ok' w') (hi : (i.independent || ok) = true) :
    ∃ reply outcome w₁ calls₁ traces₁, Call.reply perform ⟨i, w⟩ = (reply, w₁) ∧
      reply.RecordedAs outcome ∧
      Runs perform (reply == .success) w₁ rest calls₁ traces₁ ok' w' ∧
      calls = ⟨i, w⟩ :: calls₁ ∧
      traces = ⟨i.name, i.arguments, i.flags, i.span, outcome⟩ :: traces₁ := by
  generalize his : i :: rest = is at h
  cases h with
  | done => cases his
  | call _ hcall hrecord hrest =>
    cases his
    exact ⟨_, _, _, _, _, hcall, hrecord, hrest, rfl, rfl⟩
  | skip hskip =>
    cases his
    rw [hi] at hskip
    cases hskip

/-- After a failure, dependent invocations are skipped. -/
theorem Runs.eq_of_failed {perform : Perform κ} {ok' : Bool} {w w' : World κ}
    {deps : List (Invocation κ)} {calls : List (Call κ)} {traces : List Trace}
    (h : Runs perform false w deps calls traces ok' w')
    (hdeps : ∀ d ∈ deps, d.independent = false) :
    calls = [] ∧
      traces = (deps.map fun d => ⟨d.name, d.arguments, d.flags, d.span, .skipped⟩) ∧ w' = w := by
  induction deps generalizing calls traces with
  | nil =>
    cases h
    exact ⟨rfl, rfl, rfl⟩
  | cons d deps ih =>
    have hd := hdeps d List.mem_cons_self
    cases h with
    | call hrun => simp [hd] at hrun
    | skip _ hrest =>
      obtain ⟨rfl, rfl, rfl⟩ := ih hrest fun e he => hdeps e (List.mem_cons_of_mem d he)
      exact ⟨rfl, rfl, rfl⟩

/-- **An invocation that runs, and dependent ones behind it**, run as a block. -/
theorem Runs.runsBlock {perform : Perform κ} {ok ok' : Bool} {w w' : World κ} {i : Invocation κ}
    {deps : List (Invocation κ)} {calls : List (Call κ)} {traces : List Trace}
    (h : Runs perform ok w (i :: deps) calls traces ok' w') (hi : (i.independent || ok) = true)
    (hdeps : ∀ d ∈ deps, d.independent = false) :
    RunsBlock perform w (i :: deps) calls traces w' := by
  induction deps generalizing ok w i calls traces with
  | nil =>
    obtain ⟨reply, outcome, w₁, calls₁, traces₁, hcall, hrecord, hrest, rfl, rfl⟩ :=
      h.exists_call hi
    cases hrest
    by_cases hreply : reply = .success
    · subst hreply
      cases hrecord
      exact .succeed hcall .done
    · exact .stop hcall hreply hrecord
  | cons d deps ih =>
    obtain ⟨reply, outcome, w₁, calls₁, traces₁, hcall, hrecord, hrest, rfl, rfl⟩ :=
      h.exists_call hi
    -- the bit is now the outcome of this call, and `d` depends on nothing else
    by_cases hreply : reply = .success
    · subst hreply
      cases hrecord
      refine .succeed hcall (ih hrest (Bool.or_true _) fun e he => ?_)
      exact hdeps e (List.mem_cons_of_mem d he)
    · rw [beq_false_of_ne hreply] at hrest
      obtain ⟨rfl, rfl, rfl⟩ := hrest.eq_of_failed hdeps
      exact .stop hcall hreply hrecord

/-- Up to the next independent invocation, all are dependent. -/
theorem independent_of_mem_takeWhile {is : List (Invocation κ)} {d : Invocation κ}
    (h : d ∈ is.takeWhile fun j => !j.independent) : d.independent = false := by
  have hall : (is.takeWhile fun j => !j.independent).all (fun j => !j.independent) = true :=
    List.all_takeWhile
  simpa using List.all_eq_true.1 hall d h

/-- After these comes an independent one. -/
theorem independent_of_head?_dropWhile {is : List (Invocation κ)} {i : Invocation κ}
    (h : (is.dropWhile fun j => !j.independent).head? = some i) : i.independent = true := by
  have hnot := List.head?_dropWhile_not (fun j : Invocation κ => !j.independent) is
  rw [h] at hnot
  simpa using hnot

/-- **The rules of the loop run a chain block by block**, if the first invocation runs. -/
theorem Runs.runsBlocks {perform : Perform κ} {ok ok' : Bool} {w w' : World κ}
    {is : List (Invocation κ)} {calls : List (Call κ)} {traces : List Trace}
    (h : Runs perform ok w is calls traces ok' w')
    (hhead : ∀ i, is.head? = some i → (i.independent || ok) = true) :
    RunsBlocks perform w (blocks is) calls traces w' := by
  fun_induction blocks is generalizing ok w calls traces with
  | case1 =>
    cases h
    exact .nil
  | case2 i rest ih =>
    rw [← List.takeWhile_append_dropWhile (p := fun j : Invocation κ => !j.independent) (l := rest),
      ← List.cons_append] at h
    obtain ⟨calls₁, traces₁, ok₁, w₁, calls₂, traces₂, hfront, hback, rfl, rfl⟩ :=
      h.exists_of_append
    -- whatever bit the block leaves, the next one starts with an independent invocation
    refine .cons (hfront.runsBlock (hhead i rfl) fun d hd => ?_) (ih hback fun j hj => ?_)
    · exact independent_of_mem_takeWhile hd
    · rw [independent_of_head?_dropWhile hj, Bool.true_or]

/-! ### The blocks of a chain -/

/-- Cutting into blocks loses nothing. -/
theorem flatten_blocks (is : List (Invocation κ)) : (blocks is).flatten = is := by
  fun_induction blocks is with
  | case1 => rfl
  | case2 i rest ih =>
    rw [List.flatten_cons, ih, List.cons_append, List.takeWhile_append_dropWhile]

/-- **A block**: an independent invocation and dependent ones. -/
structure IsBlock (block : List (Invocation κ)) : Prop where
  independent_head : ∃ i, block.head? = some i ∧ i.independent = true
  dependent_tail : ∀ d ∈ block.tail, d.independent = false

/-- The blocks of a chain are blocks, if its first invocation is independent. -/
theorem isBlock_of_mem_blocks {is : List (Invocation κ)}
    (hhead : ∀ i, is.head? = some i → i.independent = true) :
    ∀ block ∈ blocks is, IsBlock block := by
  fun_induction blocks is with
  | case1 => exact fun _ h => absurd h List.not_mem_nil
  | case2 i rest ih =>
    refine List.forall_mem_cons.2 ⟨⟨⟨i, rfl, hhead i rfl⟩, fun d hd => ?_⟩, ih fun j hj => ?_⟩
    · exact independent_of_mem_takeWhile hd
    · exact independent_of_head?_dropWhile hj

/-- The first call of a line is independent. A blank line has none. -/
theorem independent_of_head?_parse {registry : Registry κ} {line : Text} {chain : Chain κ}
    (hparse : Console.parse registry line = .ok chain) {i : Invocation κ}
    (hi : chain.invocations.head? = some i) : i.independent = true := by
  rw [Console.parse, Console.resolve] at hparse
  split at hparse
  · cases hparse
    cases hi
  · exact independent_of_head? hparse hi

/-- **A line that can be resolved runs in blocks.** -/
theorem execute_runs_blocks (perform : Perform κ) {line : Text} {w : World κ} {chain : Chain κ}
    (hparse : Console.parse w.registry line = .ok chain) :
    ∃ e calls, Console.execute perform line w = .ok e ∧
      e.traces.map (fun t => (t.name, t.arguments, t.flags, t.span)) =
        chain.invocations.map (fun i => (i.name, i.arguments, i.flags, i.span)) ∧
      (blocks chain.invocations).flatten = chain.invocations ∧
      (∀ block ∈ blocks chain.invocations, IsBlock block) ∧
      RunsBlocks perform w (blocks chain.invocations) calls e.traces e.world ∧
      (e.success = true ↔ ∀ c, calls.getLast? = some c → (c.reply perform).1 = .success) ∧
      e.success = ((e.ran.getLast?).map fun t => t.outcome.isSuccess).getD true ∧
      ∀ perform', (∀ c ∈ calls, c.reply perform' = c.reply perform) →
        Console.execute perform' line w = .ok e := by
  have hhead : ∀ i, chain.invocations.head? = some i → i.independent = true := fun i hi =>
    independent_of_head?_parse hparse hi
  obtain ⟨calls, hruns⟩ := exists_runs_runFrom perform true chain.invocations w
  have hexecute : ∀ perform', Console.execute perform' line w = .ok (chain.run perform' w) :=
    fun perform' => by rw [Console.execute, hparse, Except.map]
  refine ⟨chain.run perform w, calls, hexecute perform, hruns.map_traces, flatten_blocks _,
    isBlock_of_mem_blocks hhead, hruns.runsBlocks fun i hi => ?_, hruns.success_iff,
    hruns.success_eq, fun perform' hagree => ?_⟩
  · rw [hhead i hi, Bool.true_or]
  · rw [hexecute perform', run, hruns.runFrom_congr hagree, run]

/-- An action that removes a command, and what it replies if the command is gone. -/
structure Removal where
  name : Text
  otherwise : Reply

/-- Removes the command. -/
def removing : Perform Removal := fun r _ w =>
  match w.unregister r.name with
  | (some _, w') => (.success, w')
  | (none, w') => (r.otherwise, w')

/-- Four commands. The first two can remove the second one, the others remove nothing. -/
def fourRemovers : World Removal :=
  { (World.empty : World Removal) with
    registry := ⟨[("a", .plain "a" ⟨"b", .error "gone"⟩), ("b", .plain "b" ⟨"b", .failure⟩),
      ("c", .plain "c" ⟨"x", .panic (some "lost")⟩), ("d", .plain "d" ⟨"x", .panic none⟩)]⟩ }

/-- A line that runs in four blocks. -/
def fourBlocks : Text := "a & b & a; a; c; d & c"

/-- The command that `a` removes still runs, and fails. Behind it a block is skipped to its end, and
the next one runs all the same. -/
theorem execute_runs_blocks_removing :
    ∃ chain e calls, Console.parse fourRemovers.registry fourBlocks = .ok chain ∧
      Console.execute removing fourBlocks fourRemovers = .ok e ∧
      RunsBlocks removing fourRemovers (blocks chain.invocations) calls e.traces e.world ∧
      e.traces.map Trace.outcome = [.succeeded, .failed, .skipped, .errored "gone",
        .panicked "lost", .panicked "unknown panic payload", .skipped] ∧
      e.success = false := by
  obtain ⟨chain, hparse⟩ := exists_eq_ok_of_isOk
    (show (Console.parse fourRemovers.registry fourBlocks).isOk = true by decide +kernel)
  obtain ⟨e, calls, hexecute, -, -, -, hruns, -, -, -⟩ := execute_runs_blocks removing hparse
  have hrun : (Console.execute removing fourBlocks fourRemovers).toOption.map
      (fun e => (e.traces.map Trace.outcome, e.success)) =
        some ([.succeeded, .failed, .skipped, .errored "gone", .panicked "lost",
          .panicked "unknown panic payload", .skipped], false) := by decide +kernel
  rw [hexecute] at hrun
  obtain ⟨houtcomes, hsuccess⟩ := Prod.mk.inj (Option.some.inj hrun)
  exact ⟨chain, e, calls, hparse, hexecute, hruns, houtcomes, hsuccess⟩

end Chain

end CommandConsole
