import CommandConsole.Highlight.Theme
import CommandConsole.Setting

/-!
# Themes as settings

A theme is written as a mapping from the names of roles to colours. Roles that are not
named keep their standard colour, and a name that is no role is an error. It may also be
written as a sequence of colours for the roles in their order, of which the last ones may
be missing.

* `Theme.ofSetting` reads a theme, and leaves the items of a sequence that it has no role
  for;
* `Theme.ofSettingExactly` refuses such items.
-/

namespace CommandConsole.Theme

/-- The roles in their order, each with its name in settings. -/
def fields : List (Text × Role) :=
  [("command", .command), ("unknown_command", .unknownCommand), ("argument", .argument),
   ("string", .string)]

/-- Reads a colour. -/
def colorOfSetting (s : Setting) : Except Setting.Error Color := do
  let text ← s.asText
  match Color.parse text with
  | .ok color => .ok color
  | .error e => .error (.malformed e.message)

/-- Reads the entries of a mapping in order. -/
def ofEntries (theme : Theme) : List (Text × Setting) → Except Setting.Error Theme
  | [] => .ok theme
  | (name, value) :: rest =>
    match fields.lookup name with
    | none => .error (.unknownField name (fields.map Prod.fst))
    | some role => do ofEntries (theme.withColor role (← colorOfSetting value)) rest

/-- Reads the items of a sequence for the roles in order. -/
def ofItems (theme : Theme) : List Role → List Setting → Except Setting.Error Theme
  | role :: roles, item :: items => do
    ofItems (theme.withColor role (← colorOfSetting item)) roles items
  | _, _ => .ok theme

/-- Reads a theme. -/
def ofSetting : Setting → Except Setting.Error Theme
  | .mapping entries => ofEntries standard entries
  | .sequence items => ofItems standard (fields.map Prod.snd) items
  | other => .error (.wrongKind other "struct HighlightTheme")

/-- Reads a theme that has no more colours than there are roles. -/
def ofSettingExactly (s : Setting) : Except Setting.Error Theme := do
  let theme ← ofSetting s
  match s with
  | .sequence items =>
    if items.length ≤ fields.length then .ok theme else .error (.tooLong items.length)
  | _ => .ok theme

end CommandConsole.Theme
