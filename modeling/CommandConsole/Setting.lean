import CommandConsole.Decimal.Notation
import CommandConsole.Text.Quoted

/-!
# Settings

A **setting** is a value as a document of settings writes it: a text, a number, a list, a
mapping. It is what a document says before anyone has asked for a particular kind of value.
Whoever asks gets the value or a `Setting.Error` that names what was found and what was
wanted.
-/

namespace CommandConsole

/-- A value in a document of settings. -/
inductive Setting where
  | null
  | boolean (value : Bool)
  | integer (value : Int)
  | float (value : Float)
  | text (value : Text)
  | sequence (items : List Setting)
  | mapping (entries : List (Text × Setting))
  deriving Inhabited

namespace Setting

/-- A setting as messages show it: its kind, and its value if that is short. -/
def describe : Setting → Text
  | null => "null"
  | boolean value => "boolean `" ++ toString value ++ "`"
  | integer value => "integer `" ++ toString value ++ "`"
  | float value => "floating point `" ++ Decimal.ofFloat value ++ "`"
  | text value => "string " ++ Text.quoted value
  | sequence _ => "sequence"
  | mapping _ => "map"

/-- Why a setting is not what was asked for. -/
inductive Error where
  /-- A value of another kind was wanted. -/
  | wrongKind (found : Setting) (wanted : Text)
  /-- A mapping has a key that means nothing. -/
  | unknownField (name : Text) (known : List Text)
  /-- A sequence has more items than are asked for. -/
  | tooLong (length : Nat)
  /-- A text is not written as it should be. -/
  | malformed (message : Text)

/-- The error in words. -/
def Error.message : Error → Text
  | wrongKind found wanted => "invalid type: " ++ found.describe ++ ", expected " ++ wanted
  | unknownField name known =>
    "unknown field `" ++ name ++ "`, expected one of " ++
      Text.joinWith ", " (known.map fun k => "`" ++ k ++ "`")
  | tooLong length =>
    "invalid length " ++ toString length ++ ", expected fewer elements in array"
  | malformed message => message

/-- The text of a setting that is one. -/
def asText : Setting → Except Error Text
  | text value => .ok value
  | other => .error (.wrongKind other "a string")

/-- The truth value of a setting that is one. -/
def asBoolean : Setting → Except Error Bool
  | boolean value => .ok value
  | other => .error (.wrongKind other "a boolean")

/-- The count that a setting gives, if it is a whole number and not below zero. -/
def asCount : Setting → Except Error Nat
  | integer (.ofNat n) => .ok n
  | other => .error (.wrongKind other "a count")

end Setting

end CommandConsole
