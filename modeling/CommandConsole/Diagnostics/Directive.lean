import CommandConsole.Diagnostics.Line
import CommandConsole.Pattern.Machine
import CommandConsole.Pattern.Parser

/-!
# Directives of a log filter

A **directive** gives a level to a part of what is logged. It is written in one of these
forms, and each but the first may be followed by `=` and a level:

* `level` is about everything;
* `target` is about what comes from a part of the program, and everything below it;
* `target[name]` is about what happens in calls that are shown under a name;
* `target[name{field=value}]` is about calls and events that have a field, and of calls
  only those whose field has a certain value. The target, the name and the value may be
  missing.

A directive without a level lets everything pass. The value of a field is a pattern, unless
it is written like a truth value or a number: no field of a call is one of these, so no call
has such a value.

Where the parts of a directive start and end is found in its text without the blanks around
it, but the parts are then cut out of the text with its blanks. So after a blank at the front
all parts are shifted. Such a cut may even fall inside a character (`FilterError.cutCharacter`).
-/

namespace CommandConsole

/-- Why a text is no filter. -/
inductive FilterError where
  /-- A directive is not written as it should be. -/
  | malformed
  /-- A part of a directive starts or ends inside a character. -/
  | cutCharacter
  deriving DecidableEq, Repr

/-- What the value of a field has to be like. -/
structure FieldValue where
  /-- As it is written. -/
  text : Text
  /-- The pattern it has to match; nothing if no field of a call can have this value. -/
  pattern? : Option Pattern
  deriving DecidableEq, Repr

/-- What a directive asks of a field. -/
structure FieldCondition where
  name : Text
  value? : Option FieldValue
  deriving DecidableEq, Repr

/-- What a directive is about. -/
structure Scope where
  target? : Option Text
  /-- The name of the calls that the directive is for. -/
  span? : Option Text
  field? : Option FieldCondition
  deriving DecidableEq, Repr

/-- One directive of a filter. -/
structure Directive where
  scope : Scope
  /-- How talkative the log is where the directive applies. -/
  verbosity : Nat
  deriving DecidableEq, Repr

namespace FieldValue

/-- Digits, and what follows them. -/
def splitDigits (text : Text) : Text × Text :=
  (text.takeWhile Char.isDigit, text.dropWhile Char.isDigit)

/-- Whether a text is an exponent with its mark, or nothing. -/
def isExponent : Text → Bool
  | [] => true
  | c :: rest =>
    let digits := match rest with
      | '+' :: digits => digits
      | '-' :: digits => digits
      | _ => rest
    (c = 'e' || c = 'E') && !digits.isEmpty && digits.all Char.isDigit

/-- Whether a text without a sign is written like a number. -/
def isUnsigned (text : Text) : Bool :=
  let (whole, rest) := splitDigits text
  let (part, rest) := match rest with
    | '.' :: rest => splitDigits rest
    | _ => ([], rest)
  ["inf", "infinity", "nan"].contains (String.ofList (text.map Char.toLower)) ||
    (!(whole ++ part).isEmpty && isExponent rest)

/-- Whether a text is written like a number. -/
def isNumber : Text → Bool
  | '+' :: rest => isUnsigned rest
  | '-' :: rest => isUnsigned rest
  | text => isUnsigned text

/-- Reads the value of a field. -/
def parse? (text : Text) : Option FieldValue :=
  if text = "true" || text = "false" || isNumber text then some ⟨text, none⟩
  else (Pattern.parse? text).map fun p => ⟨text, some p⟩

/-- Whether the text of a field has the value. -/
def holdsOf (v : FieldValue) (text : Text) : Bool := v.pattern?.any fun p => p.accepts text

end FieldValue

namespace FieldCondition

/-- Reads a condition. Of the parts between equals signs, only the first two count. -/
def parse? (text : Text) : Option FieldCondition :=
  match Text.splitAt '=' text with
  | [] => none
  | [name] => some ⟨name, none⟩
  | name :: value :: _ => (FieldValue.parse? value).map fun v => ⟨name, some v⟩

/-- Whether a call satisfies the condition. -/
def holdsOf (f : FieldCondition) (c : CallRecord) : Bool :=
  match f.value? with
  | none => CallRecord.fieldNames.contains f.name
  | some v => (c.fields.lookup f.name).any v.holdsOf

end FieldCondition

namespace Directive

/-- The verbosity of a level given by name or by number. -/
def verbosity? (text : Text) : Option Nat :=
  let digits := match text with
    | '+' :: rest => rest
    | _ => text
  if !digits.isEmpty && digits.all Char.isDigit then
    let n := digits.foldl (fun acc c => 10 * acc + (c.toNat - 48)) 0
    if n ≤ 5 then some n else none
  else
    [("off", 0), ("error", 1), ("warn", 2), ("info", 3), ("debug", 4), ("trace", 5)].lookup
      (String.ofList (text.map Char.toLower))

/-- The verbosity that lets everything pass. -/
def everything : Nat := 5

/-- Whether a directive can start with a character, the bracket of a span apart. -/
def canStart (c : Char) : Bool :=
  isAlphanumeric c || c == '-' || c == ':' || c == '_'

/-- Where reading stands in a directive, with the offset where the part begins that is being
read. -/
inductive Stage where
  | start
  /-- In a level or a target. -/
  | head (offset : Nat)
  | span (offset : Nat)
  | field (offset : Nat)
  /-- After the brace that closes the field. -/
  | fieldDone
  /-- After the bracket that closes the span. -/
  | spanDone
  | level (offset : Nat)
  deriving DecidableEq, Repr

/-- Cuts a part out of a directive. -/
def cut (text : Text) (start stop : Nat) : Except FilterError Text :=
  match text.slice? start stop with
  | some part => .ok part
  | none => .error .cutCharacter

/-- Cuts the last part out of a directive. -/
def cutToEnd (text : Text) (start : Nat) : Except FilterError Text :=
  cut text start (Text.byteLength text)

/-- One character further, which stands at an offset. `scope` is what has been read so far. -/
def step (text : Text) (offset : Nat) (c : Char) (scope : Scope) :
    Stage → Except FilterError (Stage × Scope)
  | .start =>
    if c = '[' then .ok (.span (offset + 1), scope)
    else if canStart c then .ok (.head offset, scope)
    else .error .malformed
  | .head start =>
    if c = '=' then do
      .ok (.level (offset + 1), { scope with target? := some (← cut text start offset) })
    else if c = '[' then do
      .ok (.span (offset + 1), { scope with target? := some (← cut text start offset) })
    else .ok (.head start, scope)
  | .span start =>
    if c = ']' then do
      .ok (.spanDone, { scope with span? := some (← cut text start offset) })
    else if c = '\x7b' then do
      let name ← cut text start offset
      let span? := if name.isEmpty then none else some name
      .ok (.field (offset + 1), { scope with span? })
    else .ok (.span start, scope)
  | .field start =>
    if c = '\x7d' then do
      let condition ← cut text start offset
      match FieldCondition.parse? condition with
      | some f =>
        if condition.isEmpty then .error .malformed
        else .ok (.fieldDone, { scope with field? := some f })
      | none => .error .malformed
    else .ok (.field start, scope)
  | .fieldDone => if c = ']' then .ok (.spanDone, scope) else .error .malformed
  | .spanDone => if c = '=' then .ok (.level (offset + 1), scope) else .error .malformed
  | .level start => .ok (.level start, scope)

/-- The directive at the end of its text. -/
def finish (text : Text) (scope : Scope) : Stage → Except FilterError Directive
  | .head start => do
    let head ← cutToEnd text start
    match verbosity? head with
    | some v => .ok ⟨scope, v⟩
    | none => .ok ⟨{ scope with target? := some head }, everything⟩
  | .level start => do
    let level ← cutToEnd text start
    if level.isEmpty then .ok ⟨scope, everything⟩
    else match verbosity? level with
      | some v => .ok ⟨scope, v⟩
      | none => .error .malformed
  | .spanDone => .ok ⟨scope, everything⟩
  | _ => .error .malformed

/-- Reads the rest of a directive. -/
def readFrom (text : Text) (stage : Stage) (scope : Scope) (offset : Nat) :
    Text → Except FilterError Directive
  | [] => finish text scope stage
  | c :: rest => do
    let (stage, scope) ← step text offset c scope stage
    readFrom text stage scope (offset + c.utf8Size) rest

/-- Reads a directive. -/
def parse (text : Text) : Except FilterError Directive :=
  readFrom text .start ⟨none, none, none⟩ 0 (Text.trim text)

/-- Whether a directive is about calls. -/
def isForCalls (d : Directive) : Bool := d.scope.span?.isSome || d.scope.field?.isSome

/-- Whether a directive is about events by themselves. -/
def isForEvents (d : Directive) : Bool :=
  d.scope.span?.isNone && (d.scope.field?.bind FieldCondition.value?).isNone

/-- Whether a directive is about a target. -/
def coversTarget (d : Directive) (target : Text) : Bool :=
  d.scope.target?.all fun t => t.isPrefixOf target

/-- Whether a directive is about the calls that commands are called in. -/
def coversCalls (d : Directive) : Bool :=
  d.isForCalls && d.coversTarget CallRecord.target &&
    (d.scope.span?.all fun name => name = CallRecord.spanName) &&
    d.scope.field?.all fun f => CallRecord.fieldNames.contains f.name

/-- Whether a directive is about an event by itself: its target and its field are those of the
event. -/
def coversEvent (d : Directive) (l : LogLine) : Bool :=
  d.isForEvents && d.coversTarget l.target &&
    d.scope.field?.all fun f => l.fieldNames.contains f.name

/-- Whether one directive is more specific than another about the same event, or as specific:
its target is longer; or it is as long, and it asks for a field, and for one that comes later
in the order of names. -/
def isSpecificAs (d e : Directive) : Bool :=
  let length := fun (d : Directive) => (d.scope.target?.map Text.byteLength)
  let name := fun (d : Directive) => (d.scope.field?.map FieldCondition.name)
  match compareOption compare (length d) (length e) with
  | .gt => true
  | .lt => false
  | .eq => (compareOption compareOfText (name d) (name e)).isGE
where
  /-- Nothing comes before something. -/
  compareOption {α : Type} (compare : α → α → Ordering) : Option α → Option α → Ordering
    | none, none => .eq
    | none, some _ => .lt
    | some _, none => .gt
    | some a, some b => compare a b
  /-- The order of code points. -/
  compareOfText (a b : Text) : Ordering := if a < b then .lt else if b < a then .gt else .eq

end Directive

end CommandConsole
