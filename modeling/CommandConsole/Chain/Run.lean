import CommandConsole.Diagnostics.Event
import CommandConsole.World

/-!
# Running a chain

The invocations of a chain run in order, each in the world the one before it left. An
invocation runs if it is independent, or if the last one that ran succeeded; otherwise it
is **skipped**, which changes nothing. A callback that fails, errs or panics has failed,
and that is all: nothing stops the chain.

* `Chain.call` makes one call;
* `Chain.runFrom` and `Chain.run` run a chain; there is one `Trace` per invocation, in order,
  and the chain as a whole succeeds if the last invocation that ran did, or if none ran.
-/

namespace CommandConsole

/-- How an invocation ended. -/
inductive Outcome where
  | succeeded
  | failed
  | errored (message : Text)
  | panicked (message : Text)
  /-- Not run, because the last invocation that ran failed. -/
  | skipped
  deriving DecidableEq, Repr

namespace Outcome

/-- Whether the callback ran and succeeded. -/
def isSuccess : Outcome → Bool
  | succeeded => true
  | _ => false

/-- Whether the callback ran. -/
def ran : Outcome → Bool
  | skipped => false
  | _ => true

/-- The outcome of a call with this reply. A panic that says nothing readable is named so. -/
def ofReply : Reply → Outcome
  | .success => succeeded
  | .failure => failed
  | .error message => errored message
  | .panic message? => panicked (message?.getD "unknown panic payload")

end Outcome

/-- The record of one invocation. -/
structure Trace where
  name : Text
  arguments : List Text
  flags : FlagSet
  span : Span
  outcome : Outcome
  deriving DecidableEq

namespace Trace

variable {κ : Type}

/-- The record of an invocation that ended with this outcome. -/
def ofInvocation (i : Invocation κ) (outcome : Outcome) : Trace :=
  ⟨i.name, i.arguments, i.flags, i.span, outcome⟩

end Trace

/-- What running a chain comes to. -/
structure Execution (κ : Type) where
  /-- Whether the last invocation that ran succeeded; true if none ran. -/
  success : Bool
  /-- One record per invocation, in order. -/
  traces : List Trace
  world : World κ
  /-- What happened on the way. -/
  notes : List Note
  deriving DecidableEq

namespace Execution

variable {κ : Type}

/-- The records of the invocations that ran. -/
def ran (e : Execution κ) : List Trace :=
  e.traces.filter fun t => t.outcome.ran

/-- With the record of an earlier invocation, and what happened then. -/
def after (trace : Trace) (notes : List Note) (e : Execution κ) : Execution κ :=
  { e with traces := trace :: e.traces, notes := notes ++ e.notes }

end Execution

namespace World

variable {κ : Type}

/-- An event that happens in a world. -/
def note (w : World κ) (e : Event) : Note := ⟨w.err.written.length, e⟩

end World

namespace Chain

variable {κ : Type}

/-- A call as diagnostics show it. -/
def callRecord (i : Invocation κ) : CallRecord := ⟨i.name, i.arguments, i.flags.names⟩

/-- The events that an outcome gives rise to. -/
def outcomeEvents (i : Invocation κ) : Outcome → List Event
  | .errored message => [.errored (callRecord i) message]
  | .panicked message => [.panicked (callRecord i) message]
  | .skipped => [.skipped i.name]
  | .succeeded | .failed => []

/-- Calls the command of an invocation. -/
def call (perform : Perform κ) (i : Invocation κ) (w : World κ) : Outcome × World κ :=
  let (reply, w') := perform i.command.action i w
  (Outcome.ofReply reply, w')

/-- Runs the rest of a chain. `ok` says how the last invocation that ran ended. -/
def runFrom (perform : Perform κ) (ok : Bool) : List (Invocation κ) → World κ → Execution κ
  | [], w => ⟨ok, [], w, []⟩
  | i :: rest, w =>
    if i.independent || ok then
      let (outcome, w') := call perform i w
      (runFrom perform outcome.isSuccess rest w').after (.ofInvocation i outcome)
        ((outcomeEvents i outcome).map w'.note)
    else
      -- a skipped invocation passes the failure on
      (runFrom perform ok rest w).after (.ofInvocation i .skipped)
        ((outcomeEvents i .skipped).map w.note)

/-- Runs a chain. -/
def run (perform : Perform κ) (c : Chain κ) (w : World κ) : Execution κ :=
  runFrom perform true c.invocations w

end Chain

end CommandConsole
