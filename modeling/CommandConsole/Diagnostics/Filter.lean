import CommandConsole.Diagnostics.Directive

/-!
# Which events are shown

A **filter** is a list of directives, written with commas between them. Of two directives
about the same thing the later one holds.

* Of the directives that are about an event by itself, the most specific one decides whether
  the level of the event passes (`Filter.verbosityOf`).
* An event in a call is shown as well if a directive about the call lets its level pass; the
  most talkative of these decides (`Filter.verbosityInCall`).
* A call is shown with its events if any directive is about such calls, or else if what is
  said at level `info` where calls are made passes (`Filter.showsCalls`).
* In no case is anything shown beyond the most talkative directive there is
  (`Filter.limit`). Directives that ask for the value of a field lift this limit, since
  values are not known in advance.

`Filter.parse` reads a filter, and refuses it if it does not understand one of its
directives. The empty text is a filter that lets nothing pass.
-/

namespace CommandConsole

/-- The directives of a filter in their order. -/
abbrev Filter : Type := List Directive

namespace Filter

/-- Lets warnings and errors pass. -/
def warnings : Filter := [⟨⟨none, none, none⟩, 2⟩]

/-- Reads directives in order. -/
def parseAll : List Text → Except FilterError Filter
  | [] => .ok []
  | text :: rest => do
    let d ← Directive.parse text
    let f ← parseAll rest
    .ok (d :: f)

/-- Reads a filter. Commas with nothing between them count as one. -/
def parse (text : Text) : Except FilterError Filter :=
  parseAll ((Text.splitAt ',' text).filter fun part => !part.isEmpty)

/-- The first of some texts that is a filter. Malformed ones are passed over. -/
def firstOf : List Text → Except FilterError Filter
  | [] => .ok warnings
  | text :: rest =>
    match parse text with
    | .error .malformed => firstOf rest
    | result => result

/-- The directives that hold: those without a later one about the same thing. -/
def current : Filter → Filter
  | [] => []
  | d :: rest =>
    if rest.any fun e => e.scope = d.scope then current rest else d :: current rest

/-- The verbosity of the most talkative directive. -/
def limit (f : Filter) : Nat :=
  if f.any fun d => (d.scope.field?.bind FieldCondition.value?).isSome then Directive.everything
  else (f.map Directive.verbosity).foldl max 0

/-- The verbosity that the most specific of some directives gives; nothing passes where there
is none. -/
def mostSpecific (ds : List Directive) : Nat :=
  match ds with
  | [] => 0
  | d :: rest => (rest.foldl (fun best e => if e.isSpecificAs best then e else best) d).verbosity

/-- The verbosity for an event by itself. -/
def verbosityOf (f : Filter) (l : LogLine) : Nat :=
  mostSpecific (f.current.filter fun d => d.coversEvent l)

/-- The verbosity for calls by their target. Fields do not matter here. -/
def verbosityOfCalls (f : Filter) : Nat :=
  mostSpecific
    (f.current.filter fun d => d.isForEvents && d.coversTarget CallRecord.target)

/-- The verbosity for what happens in a call. -/
def verbosityInCall (f : Filter) (c : CallRecord) : Nat :=
  let covering := f.current.filter fun d =>
    d.coversCalls && d.scope.field?.all fun field => field.holdsOf c
  (covering.map Directive.verbosity).foldl max 0

/-- Whether calls are shown with their events. -/
def showsCalls (f : Filter) : Bool :=
  Level.info.verbosity ≤ f.limit &&
    (f.any Directive.coversCalls || Level.info.verbosity ≤ f.verbosityOfCalls)

/-- Whether a line is shown. -/
def shows (f : Filter) (l : LogLine) : Bool :=
  l.level.verbosity ≤ f.limit &&
    (l.level.verbosity ≤ f.verbosityOf l ||
      (f.showsCalls && l.call?.any fun c => l.level.verbosity ≤ f.verbosityInCall c))

/-- What an event comes to under a filter: a line, or nothing. -/
def renderEvent (f : Filter) (style : LogStyle) (e : Event) : Text :=
  if f.shows e.line then e.line.render style f.showsCalls else []

/-- The text on an error stream from character `pos` on, with the events that are shown put
where they happened. -/
def interleave (f : Filter) (style : LogStyle) (pos : Nat) (err : Text) : List Note → Text
  | [] => err
  | n :: rest =>
    err.take (n.offset - pos) ++ f.renderEvent style n.event ++
      interleave f style n.offset (err.drop (n.offset - pos)) rest

/-- The text on an error stream with the events that are shown. -/
def render (f : Filter) (style : LogStyle) (err : Text) (notes : List Note) : Text :=
  f.interleave style 0 err notes

end Filter

end CommandConsole
