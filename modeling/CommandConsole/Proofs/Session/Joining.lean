import CommandConsole.Proofs.Chain.Joining
import CommandConsole.Proofs.Session.Lines

/-!
# Running two lines joined by a `;`

Two lines that can be resolved run as one line, with a `;` between them, like the one and then the
other, if no callback looks at the place of its call (`Session.runLine_append_always`). Three things
could go wrong:

* The joined line is resolved before anything of it runs, the second line only when the first has
  run. This comes to the same if the commands of the session leave the registry alone
  (`KeepsRegistry`).
* The success of the first line crosses the joint. It stops there if the first call of the second
  line is independent, which it is unless its nearest separator is a `&`
  (`Chain.parse_append_of_independent`). The rest of the second line only sees what this call came
  to (`Chain.Runs.restart`).
* The calls of the second line stand further on in the joined line, and a callback is shown the
  place of its call. What runs in the joined line is therefore the second line with callbacks that
  are shown the other place (`Perform.movedBy`). For callbacks that do not look at it
  (`IgnoresPlace`), as the builtins, it is the second line as it is. Without this condition the two
  ways can be told apart, by a callback that prints where its call starts (`Session.printStart`).
-/

namespace CommandConsole

variable {κ : Type} {perform perform' : Perform κ} {w : World κ}

/-- **A command that leaves the registry alone**, whatever it is called with. -/
def KeepsRegistry (perform : Perform κ) (c : Command κ) : Prop :=
  ∀ i v, (perform c.action i v).2.registry = v.registry

/-- **A command that does not look at the place** of its call in the line. -/
def IgnoresPlace (perform : Perform κ) (c : Command κ) : Prop :=
  ∀ n i v, perform c.action (i.shift n) v = perform c.action i v

/-- The callbacks that are shown their calls `n` bytes further on. -/
def Perform.movedBy (perform : Perform κ) (n : Nat) : Perform κ :=
  fun action i v => perform action (i.shift n) v

/-- The record `n` bytes further on. -/
def Trace.shift (n : Nat) (t : Trace) : Trace := { t with span := t.span.shift n }

/-- The call `n` bytes further on, in the same world. -/
def Chain.Call.shift (n : Nat) (c : Call κ) : Call κ :=
  { c with invocation := c.invocation.shift n }

theorem Session.HoldsBuiltins.keepsRegistry {embed : Builtin → κ}
    (h : HoldsBuiltins perform embed w) : ∀ c ∈ w.registry.commands, KeepsRegistry perform c := by
  intro c hc i v
  obtain ⟨b, -, rfl⟩ := h.commands c hc
  obtain ⟨reply, out, hreply⟩ := b.action.exists_perform_eq i v
  rw [Command.map, h.perform_eq, hreply]

theorem Builtin.perform_shift (b : Builtin) (n : Nat) (i : Invocation κ) (v : World κ) :
    b.perform (i.shift n) v = b.perform i v := by
  cases b <;> rfl

theorem Session.HoldsBuiltins.ignoresPlace {embed : Builtin → κ}
    (h : HoldsBuiltins perform embed w) : ∀ c ∈ w.registry.commands, IgnoresPlace perform c := by
  intro c hc n i v
  obtain ⟨b, -, rfl⟩ := h.commands c hc
  rw [Command.map, h.perform_eq, b.action.perform_shift]

namespace Chain

open Token (separatorAt)

variable {ok ok' : Bool} {w' : World κ} {is : List (Invocation κ)} {calls : List (Call κ)}
  {traces : List Trace}

/-! ### The calls of the joined line -/

theorem lastSeparator?_map_shift (n : Nat) (tokens : List Token) :
    lastSeparator? (tokens.map (Token.shift n)) = lastSeparator? tokens := by
  rw [lastSeparator?, lastSeparator?, List.filterMap_map]
  rfl

/-- **The nearest separator in the joined line** is the one in the second line, and the joint if
there is none. -/
theorem nearestSeparator?_joinTokens (front : Text) (tokens more : List Token) (pos : Nat) :
    nearestSeparator? (joinTokens front tokens more) (pos + (Text.byteLength front + 1)) =
      some ((nearestSeparator? more pos).getD .always) := by
  have hjoint : (separatorAt .always (Text.byteLength front)).span.stop ≤
      pos + (Text.byteLength front + 1) := Nat.le_add_left _ _
  have hmore : (more.map (Token.shift (Text.byteLength front + 1))).filter
        (fun t => decide (t.span.stop ≤ pos + (Text.byteLength front + 1))) =
      (more.filter fun t => decide (t.span.stop ≤ pos)).map
        (Token.shift (Text.byteLength front + 1)) := by
    rw [List.filter_map]
    congr 1
    refine List.filter_congr ?_
    intro t _
    exact decide_eq_decide.2 Nat.add_le_add_iff_right
  have hkind : (separatorAt .always (Text.byteLength front)).kind = .separator .always := rfl
  rw [nearestSeparator?, joinTokens, List.filter_append,
    List.filter_cons_of_pos (by rw [decide_eq_true hjoint]), hmore,
    lastSeparator?_append_separator hkind, lastSeparator?_map_shift, nearestSeparator?]

/-- **Two lines joined by a `;` make the calls of the one and then of the other**, if the first call
of the second line does not follow a `&`. -/
theorem parse_append_of_independent {registry : Registry κ} {front back : Text}
    {first second : Chain κ} {more : List Token}
    (hfirst : parse registry.find? front = .ok first)
    (hsecond : parse registry.find? back = .ok second) (hmore : Token.tokenize back = .ok more)
    (hindependent : ∀ i, second.invocations.head? = some i →
      nearestSeparator? more i.span.start ≠ some .onSuccess) :
    ∃ joined, parse registry.find? (front ++ ';' :: back) = .ok joined ∧
      joined.invocations = first.invocations ++
        second.invocations.map (Invocation.shift (Text.byteLength front + 1)) := by
  have hhead : ∀ i, second.invocations.head? = some i → i.independent = true := fun i hi =>
    independent_of_head? hsecond hi
  obtain ⟨tokens, hfront, hsound, rfl⟩ := exists_sound_of_parse hfirst
  obtain ⟨more', hback, hsound', rfl⟩ := exists_sound_of_parse hsecond
  obtain rfl := Except.ok.inj (hmore.symm.trans hback)
  obtain ⟨joined, hjoined, hcalls⟩ := resolve_append_of_sound hfront hback hsound hsound'
  refine ⟨joined, by rw [parse, hjoined], hcalls.trans ?_⟩
  -- the first call of the second line is still independent, and the others never change
  generalize invocationsOf registry.find? (segments more) = calls at hindependent hhead ⊢
  cases calls with
  | nil =>
    rw [joinInvocations, List.map_nil, List.append_nil]
  | cons i rest =>
    have hseparator := hindependent i rfl
    have hnearest : (nearestSeparator? more i.span.start).getD .always = .always := by
      cases h : nearestSeparator? more i.span.start with
      | none => rfl
      | some which =>
        cases which with
        | always => rfl
        | onSuccess => exact absurd h hseparator
    rw [joinInvocations, nearestSeparator?_joinTokens, hnearest, List.map_cons]
    have hi : i.shift (Text.byteLength front + 1) =
        { i.shift (Text.byteLength front + 1) with independent := true } := by
      rw [← hhead i rfl]
      rfl
    simp only [beq_self_eq_true, Bool.or_true]
    rw [← hi]

/-- The condition on the second line as a test of the line. -/
theorem nearestSeparator?_ne_of_toOption {registry : Registry κ} {line : Text} {chain : Chain κ}
    {tokens : List Token} (hchain : parse registry.find? line = .ok chain)
    (htokens : Token.tokenize line = .ok tokens)
    (htest : ((parse registry.find? line).toOption.bind fun c => c.invocations.head?.bind fun i =>
      (Token.tokenize line).toOption.bind fun ts => nearestSeparator? ts i.span.start) ≠
        some .onSuccess) :
    ∀ i, chain.invocations.head? = some i →
      nearestSeparator? tokens i.span.start ≠ some .onSuccess := by
  intro i hi
  rw [hchain, htokens] at htest
  simpa only [Except.toOption, Option.bind_some, hi] using htest

/-! ### The run of the joined line -/

/-- **A chain can be run in two parts**, the second where the first has ended. -/
theorem Runs.append {ok₁ : Bool} {w₁ : World κ} {back : List (Invocation κ)}
    {calls' : List (Call κ)} {traces' : List Trace}
    (h : Runs perform ok w is calls traces ok₁ w₁)
    (hback : Runs perform ok₁ w₁ back calls' traces' ok' w') :
    Runs perform ok w (is ++ back) (calls ++ calls') (traces ++ traces') ok' w' := by
  induction h with
  | done => exact hback
  | call hrun hcall hrecord _ ih => exact .call hrun hcall hrecord (ih hback)
  | skip hskip _ ih => exact .skip hskip (ih hback)

/-- **What came before does not matter** for a run that starts with an independent invocation. Only
if there is none, the success is still that of before. -/
theorem Runs.restart (h : Runs perform ok w is calls traces ok' w')
    (hhead : ∀ i, is.head? = some i → i.independent = true) (before : Bool) :
    Runs perform before w is calls traces (if is.isEmpty then before else ok') w' := by
  cases h with
  | done => exact .done
  | @call _ _ _ _ _ i _ _ _ _ _ _ hcall hrecord hrest =>
    have hrun' : (i.independent || before) = true := by rw [hhead i rfl, Bool.true_or]
    exact .call hrun' hcall hrecord hrest
  | @skip _ _ _ _ i _ _ _ hskip =>
    rw [hhead i rfl, Bool.true_or] at hskip
    cases hskip

/-- **A run further on in the line**: the same, if the callbacks do there what they do here. -/
theorem Runs.shift (h : Runs perform' ok w is calls traces ok' w') {n : Nat}
    (hagree : ∀ i ∈ is, ∀ v,
      perform i.command.action (i.shift n) v = perform' i.command.action i v) :
    Runs perform ok w (is.map (Invocation.shift n)) (calls.map (Call.shift n))
      (traces.map (Trace.shift n)) ok' w' := by
  -- the worlds stay the same, and so do the replies; only the places move
  induction h with
  | done => exact .done
  | @call _ _ w w' _ i _ _ _ reply _ hrun hcall hrecord _ ih =>
    have hcall' : Call.reply perform ⟨i.shift n, w⟩ = (reply, w') :=
      (hagree i List.mem_cons_self w).trans hcall
    exact .call hrun hcall' hrecord (ih fun j hj => hagree j (List.mem_cons_of_mem i hj))
  | @skip _ _ _ _ i _ _ _ hskip _ ih =>
    exact .skip hskip (ih fun j hj => hagree j (List.mem_cons_of_mem i hj))

end Chain

namespace Session

open Chain (Call)
open Console (Executes)

/-- **A joined line runs like the one line and then the other.** `first` and `second` are the chains
of the two lines, and `perform'` says what the callbacks do in the second. -/
structure RunsInTurn (perform perform' : Perform κ) (front back : Text) (w : World κ)
    (first second : Chain κ) : Prop where
  /-- The calls are those of the first line and then those of the second, in the same worlds, and
  so are the records. -/
  exists_calls : ∃ joined calls calls' e e' e'', Executes perform front w first calls e ∧
    Executes perform' back (runLine perform front w).world second calls' e' ∧
    Executes perform (front ++ ';' :: back) w joined
      (calls ++ calls'.map (Call.shift (Text.byteLength front + 1))) e'' ∧
    e''.traces = e.traces ++ e'.traces.map (Trace.shift (Text.byteLength front + 1))
  world_eq : (runLine perform (front ++ ';' :: back) w).world =
    (runLine perform' back (runLine perform front w).world).world
  status_eq : (runLine perform (front ++ ';' :: back) w).status =
    if second.isEmpty then (runLine perform front w).status
    else (runLine perform' back (runLine perform front w).world).status

/-- If the registry is kept and the second line runs here like further on, the joined line runs like
the one and then the other. -/
theorem runsInTurn_of_agree {front back : Text} {first second joined : Chain κ}
    (hfirst : Chain.parse w.registry.find? front = .ok first)
    (hsecond : Chain.parse w.registry.find? back = .ok second)
    (hjoined : Chain.parse w.registry.find? (front ++ ';' :: back) = .ok joined)
    (hcalls : joined.invocations = first.invocations ++
      second.invocations.map (Invocation.shift (Text.byteLength front + 1)))
    (hkeeps : ∀ c ∈ w.registry.commands, KeepsRegistry perform c)
    (hagree : ∀ c ∈ w.registry.commands, ∀ i v,
      perform c.action (i.shift (Text.byteLength front + 1)) v = perform' c.action i v) :
    RunsInTurn perform perform' front back w first second := by
  obtain ⟨calls, e, hfront⟩ := Console.exists_executes perform hfirst
  have hworld := hfront.world_runLine
  -- the registry is as before when the second line is resolved
  have hregistry : e.world.registry = w.registry := by
    refine hfront.runs.keeps (P := fun v => v.registry = w.registry) ?_ rfl
    intro i hi v hv
    exact (hkeeps i.command (Chain.mem_registry_of_parse hfirst hi) i v).trans hv
  rw [← hregistry] at hsecond
  obtain ⟨calls', e', hback⟩ := Console.exists_executes perform' hsecond
  have hhead : ∀ i, second.invocations.head? = some i → i.independent = true := fun i hi =>
    Chain.independent_of_head? hsecond hi
  -- what the first line came to stops at the first call of the second
  have hshifted := (hback.runs.restart hhead e.success).shift fun i hi v =>
    hagree i.command (hregistry ▸ Chain.mem_registry_of_parse hsecond hi) i v
  have hruns := hfront.runs.append hshifted
  rw [← hcalls] at hruns
  obtain ⟨e'', hline, htraces, hsuccess, hworld''⟩ :=
    Console.exists_executes_of_runs hjoined hruns
  rw [← hworld] at hback
  refine ⟨⟨joined, calls, calls', e, e', e'', hfront, hback, hline, htraces⟩, ?_, ?_⟩
  · rw [hline.world_runLine, hback.world_runLine, hworld'']
  · rw [hline.status_runLine, hback.status_runLine, hfront.status_runLine, hsuccess,
      Chain.isEmpty]
    split
    · rfl
    · rfl

/-- **Two lines joined by a `;` run like the one and then the other, if no callback looks at the
place of its call.** Then a session that reads both lines also comes to the same as one that reads
the joined line, unless the first line ends the session. Other callbacks are shown the places of the
joined line when they run the second one. -/
theorem runLine_append_always {front back : Text} {first second : Chain κ} {tokens : List Token}
    (hkeeps : ∀ c ∈ w.registry.commands, KeepsRegistry perform c)
    (hfirst : Chain.parse w.registry.find? front = .ok first)
    (hsecond : Chain.parse w.registry.find? back = .ok second)
    (htokens : Token.tokenize back = .ok tokens)
    (hindependent : ∀ i, second.invocations.head? = some i →
      Chain.nearestSeparator? tokens i.span.start ≠ some .onSuccess) :
    RunsInTurn perform (Perform.movedBy perform (Text.byteLength front + 1)) front back w first
      second ∧
    ((∀ c ∈ w.registry.commands, IgnoresPlace perform c) →
      RunsInTurn perform perform front back w first second ∧
      ((runLine perform front w).world.exitRequested = false →
        (runLines perform [front ++ ';' :: back] w).world =
          (runLines perform [front, back] w).world)) := by
  obtain ⟨joined, hjoined, hcalls⟩ :=
    Chain.parse_append_of_independent hfirst hsecond htokens hindependent
  refine ⟨?_, fun hignores => ?_⟩
  · exact runsInTurn_of_agree hfirst hsecond hjoined hcalls hkeeps fun _ _ _ _ => rfl
  · have hrun : RunsInTurn perform perform front back w first second :=
      runsInTurn_of_agree hfirst hsecond hjoined hcalls hkeeps fun c hc i v => hignores c hc _ i v
    refine ⟨hrun, fun hdown => ?_⟩
    rw [world_runLines_singleton, hrun.world_eq, world_runLines_cons hdown,
      world_runLines_singleton]

/-- Prints where its call starts. -/
def printStart : Perform Unit := fun _ i w =>
  w.print .success [.text (Nat.toDigits 10 i.span.start)]

/-- A session with one command, which prints where its call starts. -/
def startPrinter : World Unit :=
  { (World.empty : World Unit) with registry := ⟨[("p", .plain "p" ())]⟩ }

/-- **A callback that looks at the place of its call tells the two ways apart.** It keeps the
registry and leaves the flag down, and both lines are accepted, but what it prints in the joined
line is not what it prints in the two. -/
theorem runLine_append_always_startPrinter :
    (∀ c ∈ startPrinter.registry.commands, KeepsRegistry printStart c) ∧
    (∃ chain tokens, Chain.parse startPrinter.registry.find? "p" = .ok chain ∧
      Token.tokenize "p" = .ok tokens ∧ ∀ i, chain.invocations.head? = some i →
        Chain.nearestSeparator? tokens i.span.start ≠ some .onSuccess) ∧
    (runLine printStart "p" startPrinter).world.exitRequested = false ∧
    (runLine printStart "p;p" startPrinter).world.out.written = "02" ∧
    (runLines printStart ["p", "p"] startPrinter).world.out.written = "00" := by
  refine ⟨?_, ?_, by decide +kernel⟩
  · -- all that it does is print
    intro c _ i v
    obtain ⟨reply, out, hprint⟩ := v.exists_print_eq .success
      [.text (Nat.toDigits 10 i.span.start)]
    rw [printStart, hprint]
  · obtain ⟨chain, hchain⟩ := Chain.exists_eq_ok_of_isOk
      (show (Chain.parse startPrinter.registry.find? "p").isOk = true by decide +kernel)
    obtain ⟨tokens, htokens⟩ := Chain.exists_eq_ok_of_isOk
      (show (Token.tokenize "p").isOk = true by decide +kernel)
    refine ⟨chain, tokens, hchain, htokens, ?_⟩
    exact Chain.nearestSeparator?_ne_of_toOption hchain htokens (by decide +kernel)

/-- A line that fails in the end. -/
def failingLine : Text := "echo a & fail é"

/-- A line with a segment that is dropped, and two calls. -/
def nextLine : Text := " x ; echo \"b\" ?n & true"

/-- The failure at the end of the first line does not reach the second, which runs further on in the
joined line. -/
theorem runLine_append_always_failing :
    ∃ first second, HoldsBuiltins Builtin.perform id (start id) ∧
      RunsInTurn Builtin.perform Builtin.perform failingLine nextLine (start id) first second ∧
      first.length = 2 ∧ second.length = 2 ∧
      (runLine Builtin.perform failingLine (start id)).status = .failure ∧
      (runLine Builtin.perform (failingLine ++ ';' :: nextLine) (start id)).status = .success := by
  have hholds : HoldsBuiltins Builtin.perform id (start id) := holdsBuiltins_start fun _ => rfl
  obtain ⟨first, hfirst⟩ := Chain.exists_eq_ok_of_isOk
    (show (Chain.parse (start id).registry.find? failingLine).isOk = true by decide +kernel)
  obtain ⟨second, hsecond⟩ := Chain.exists_eq_ok_of_isOk
    (show (Chain.parse (start id).registry.find? nextLine).isOk = true by decide +kernel)
  obtain ⟨tokens, htokens⟩ := Chain.exists_eq_ok_of_isOk
    (show (Token.tokenize nextLine).isOk = true by decide +kernel)
  have hindependent := Chain.nearestSeparator?_ne_of_toOption hsecond htokens (by decide +kernel)
  obtain ⟨hrun, -⟩ := (runLine_append_always hholds.keepsRegistry hfirst hsecond htokens
    hindependent).2 hholds.ignoresPlace
  have hlengths : (Chain.parse (start id).registry.find? failingLine).toOption.map Chain.length =
        some 2 ∧
      (Chain.parse (start id).registry.find? nextLine).toOption.map Chain.length = some 2 := by
    decide +kernel
  rw [hfirst, hsecond] at hlengths
  have hstatus : (runLine Builtin.perform failingLine (start id)).status = .failure ∧
      (runLine Builtin.perform (failingLine ++ ';' :: nextLine) (start id)).status =
        .success := by decide +kernel
  exact ⟨first, second, hholds, hrun, Option.some.inj hlengths.1, Option.some.inj hlengths.2,
    hstatus⟩

end Session

end CommandConsole
