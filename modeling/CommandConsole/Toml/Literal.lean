import CommandConsole.Color
import CommandConsole.Decimal.Rounding
import CommandConsole.Toml.Moment
import CommandConsole.Toml.Value

/-!
# The literals of a TOML document

Strings, numbers, truth values, dates and times, each read from the front of a text. A reader
gives the value and the rest of the text, or nothing where the text does not start with such
a literal.

There are four kinds of strings: in double quotes, with escapes, or in single quotes,
without; and each on one line or, between tripled quotes, on several. Whole numbers are
decimal with an optional sign, or hexadecimal, octal or binary without; underscores may
stand between digits; and the value has to fit into sixty-four bits with a sign.

A floating point number is a decimal with a fraction, an exponent or both; or infinity, or
what is no number. A number that rounds to positive infinity is refused.
-/

namespace CommandConsole.Toml

/-- Reads a value from the front of a text. -/
abbrev Reader (α : Type) : Type := Text → Option (α × Text)

/-- A character that may stand in comments and strings: no control but the tab. -/
def isShown (c : Char) : Bool :=
  c == '\t' || (0x20 ≤ c.toNat && c.toNat ≠ 0x7f)

/-- A space or a tab. -/
def isGap (c : Char) : Bool := c == ' ' || c == '\t'

/-- Without the spaces and tabs at the front. -/
def skipGap (text : Text) : Text := text.dropWhile isGap

/-! ### Strings -/

/-- The character of a single-letter escape. -/
def escaped? : Char → Option Char
  | 'b' => some '\x08'
  | 't' => some '\t'
  | 'n' => some '\n'
  | 'f' => some '\x0c'
  | 'r' => some '\r'
  | '"' => some '"'
  | '\\' => some '\\'
  | _ => none

/-- The character of a code point in hexadecimal digits. -/
def charOfDigits? (digits : Text) : Option Char := do
  let values ← digits.mapM Color.hexValue?
  let n := values.foldl (fun acc d => 16 * acc + d) 0
  if n < 0xd800 || (0xdfff < n && n < 0x110000) then some (Char.ofNat n) else none

/-- Puts a character in front of what a reader found. -/
def consChar (c : Char) : Option (Text × Text) → Option (Text × Text) :=
  Option.map fun (text, rest) => (c :: text, rest)

/-- Reads a string in double quotes, after the opening quote. -/
def readBasic : Reader Text
  | [] => none
  | '"' :: rest => some ([], rest)
  | '\\' :: 'u' :: a :: b :: c :: d :: rest =>
    (charOfDigits? [a, b, c, d]).bind fun x => consChar x (readBasic rest)
  | '\\' :: 'U' :: a :: b :: c :: d :: e :: f :: g :: h :: rest =>
    (charOfDigits? [a, b, c, d, e, f, g, h]).bind fun x => consChar x (readBasic rest)
  | '\\' :: c :: rest => (escaped? c).bind fun x => consChar x (readBasic rest)
  | c :: rest => if isShown c && c ≠ '\\' then consChar c (readBasic rest) else none

/-- Reads a string in single quotes, after the opening quote. -/
def readLiteral : Reader Text
  | [] => none
  | '\'' :: rest => some ([], rest)
  | c :: rest => if isShown c then consChar c (readLiteral rest) else none

/-- Where reading stands in a string of several lines. -/
inductive LineState where
  /-- Among the characters of the string. -/
  | within
  /-- After a backslash that may end its line: only gaps until the line ends. -/
  | ending
  /-- After a line so ended: everything blank is skipped. -/
  | skipping
  deriving DecidableEq, Repr

/-- Reads a string of several lines in double quotes, after the opening quotes and the line
feed that may follow them. Up to two quotes may stand before the closing ones. -/
def readBasicLines : LineState → Reader Text
  | _, [] => none
  | .ending, '\n' :: rest => readBasicLines .skipping rest
  | .ending, '\r' :: '\n' :: rest => readBasicLines .skipping rest
  | .ending, c :: rest => if isGap c then readBasicLines .ending rest else none
  | .skipping, '\n' :: rest => readBasicLines .skipping rest
  | .skipping, '\r' :: '\n' :: rest => readBasicLines .skipping rest
  | .skipping, ' ' :: rest => readBasicLines .skipping rest
  | .skipping, '\t' :: rest => readBasicLines .skipping rest
  | _, '"' :: '"' :: '"' :: '"' :: '"' :: rest => some (['"', '"'], rest)
  | _, '"' :: '"' :: '"' :: '"' :: rest => some (['"'], rest)
  | _, '"' :: '"' :: '"' :: rest => some ([], rest)
  | _, '\\' :: 'u' :: a :: b :: c :: d :: rest =>
    (charOfDigits? [a, b, c, d]).bind fun x => consChar x (readBasicLines .within rest)
  | _, '\\' :: 'U' :: a :: b :: c :: d :: e :: f :: g :: h :: rest =>
    (charOfDigits? [a, b, c, d, e, f, g, h]).bind fun x =>
      consChar x (readBasicLines .within rest)
  | _, '\\' :: '\n' :: rest => readBasicLines .skipping rest
  | _, '\\' :: '\r' :: '\n' :: rest => readBasicLines .skipping rest
  | _, '\\' :: c :: rest =>
    if isGap c then readBasicLines .ending rest
    else (escaped? c).bind fun x => consChar x (readBasicLines .within rest)
  | _, '\n' :: rest => consChar '\n' (readBasicLines .within rest)
  | _, '\r' :: '\n' :: rest => consChar '\n' (readBasicLines .within rest)
  | _, c :: rest =>
    if isShown c && c ≠ '\\' then consChar c (readBasicLines .within rest) else none

/-- Reads a string of several lines in single quotes, after the opening quotes and the line
feed that may follow them. -/
def readLiteralLines : Reader Text
  | [] => none
  | '\'' :: '\'' :: '\'' :: '\'' :: '\'' :: rest => some (['\'', '\''], rest)
  | '\'' :: '\'' :: '\'' :: '\'' :: rest => some (['\''], rest)
  | '\'' :: '\'' :: '\'' :: rest => some ([], rest)
  | '\n' :: rest => consChar '\n' (readLiteralLines rest)
  | '\r' :: '\n' :: rest => consChar '\n' (readLiteralLines rest)
  | c :: rest => if isShown c then consChar c (readLiteralLines rest) else none

/-- Without one line feed at the front. -/
def skipLineFeed : Text → Text
  | '\n' :: rest => rest
  | '\r' :: '\n' :: rest => rest
  | text => text

/-- Reads a string of any kind. -/
def readString : Reader Text
  | '"' :: '"' :: '"' :: rest => readBasicLines .within (skipLineFeed rest)
  | '\'' :: '\'' :: '\'' :: rest => readLiteralLines (skipLineFeed rest)
  | '"' :: rest => readBasic rest
  | '\'' :: rest => readLiteral rest
  | _ => none

/-! ### Numbers, truth values and moments -/

/-- The value of a character as a digit in some base. -/
def digitValue? (base : Nat) (c : Char) : Option Nat :=
  (Color.hexValue? c).filter (· < base)

/-- The number that digits write, with underscores between digits only. `lead` says that a
digit came just before. -/
def digits? (base : Nat) (lead : Bool) (acc : Nat) : Text → Option Nat
  | [] => if lead then some acc else none
  | '_' :: rest => if lead then digits? base false acc rest else none
  | c :: rest => (digitValue? base c).bind fun d => digits? base true (base * acc + d) rest

/-- The number that a decimal without needless zeros in front writes. -/
def decimal? : Text → Option Nat
  | ['0'] => some 0
  | '0' :: _ => none
  | text => digits? 10 false 0 text

/-- The whole number that a text writes, its size aside. -/
def wholeNumber? : Text → Option Int
  | '0' :: 'x' :: rest => (digits? 16 false 0 rest).map Int.ofNat
  | '0' :: 'o' :: rest => (digits? 8 false 0 rest).map Int.ofNat
  | '0' :: 'b' :: rest => (digits? 2 false 0 rest).map Int.ofNat
  | '+' :: rest => (decimal? rest).map Int.ofNat
  | '-' :: rest => (decimal? rest).map fun n => -Int.ofNat n
  | text => (decimal? text).map Int.ofNat

/-- Whether a number fits into sixty-four bits with a sign. -/
def fits (n : Int) : Bool := -0x8000000000000000 ≤ n && n < 0x8000000000000000

/-- A character of a word without quotes, such as a number. -/
def isWordChar (c : Char) : Bool :=
  c.isAlphanum || c == '_' || c == '+' || c == '-' || c == '.' || c == ':'

/-- A sign, if there is one, and what follows it. -/
def splitSign : Text → Bool × Text
  | '+' :: rest => (false, rest)
  | '-' :: rest => (true, rest)
  | text => (false, text)

/-- Whether a text is made of digits, with underscores between digits only. -/
def areDigits (text : Text) : Bool := (digits? 10 false 0 text).isSome

/-- The digits of a text, without the underscores. -/
def bareDigits (text : Text) : Text := text.filter Char.isDigit

/-- The number that an exponent writes. -/
def exponent? (text : Text) : Option Int :=
  let (negative, digits) := splitSign text
  (digits? 10 false 0 digits).map fun n => if negative then -(n : Int) else n

/-- The parts of a decimal: the text before the point or the exponent, the digits after the
point, and the exponent. At least one of the last two has to be there. -/
def fractionParts? (text : Text) : Option (Text × Text × Int) :=
  let isExponentMark := fun c => c = 'e' || c = 'E'
  let whole := text.takeWhile fun c => c ≠ '.' && !isExponentMark c
  match text.dropWhile fun c => c ≠ '.' && !isExponentMark c with
  | [] => none
  | '.' :: rest =>
    let part := rest.takeWhile fun c => !isExponentMark c
    if !areDigits part then none
    else match rest.dropWhile fun c => !isExponentMark c with
      | [] => some (whole, bareDigits part, 0)
      | _ :: exponent => (exponent? exponent).map fun e => (whole, bareDigits part, e)
  | _ :: exponent => (exponent? exponent).map fun e => (whole, [], e)

/-- The floating point number that a text writes. -/
def float? (text : Text) : Option Float :=
  let (negative, size) := splitSign text
  let signed := fun (x : Float) => if negative then -x else x
  if size = "inf" then some (signed (1 / 0))
  else if size = "nan" then some (signed (0 / 0))
  else do
    let (whole, part, exponent) ← fractionParts? size
    let _ ← decimal? whole
    let digits ← digitsValue? (bareDigits whole ++ part)
    let x := signed (Decimal.toFloat ⟨digits, exponent - part.length⟩)
    if x == 1 / 0 then none else some x

/-- Reads a date, a time, or both. -/
def readMoment (text : Text) : Option (Value × Text) :=
  (skipMoment text).map fun rest => (.moment (text.take (text.length - rest.length)), rest)

/-- Reads a value without quotes and brackets. -/
def readWord (text : Text) : Option (Value × Text) :=
  let word := text.takeWhile isWordChar
  let rest := text.dropWhile isWordChar
  if word = "true" then some (.boolean true, rest)
  else if word = "false" then some (.boolean false, rest)
  else match wholeNumber? word with
    | some n => if fits n then some (.integer n, rest) else none
    | none =>
      match float? word with
      | some x => some (.float x, rest)
      | none => readMoment text

/-! ### Keys -/

/-- A character of a key without quotes. -/
def isBareKeyChar (c : Char) : Bool := c.isAlphanum || c == '_' || c == '-'

/-- Reads one part of a key. -/
def readKeyPart : Reader Text
  | '"' :: rest => readBasic rest
  | '\'' :: rest => readLiteral rest
  | text =>
    let word := text.takeWhile isBareKeyChar
    if word.isEmpty then none else some (word, text.dropWhile isBareKeyChar)

end CommandConsole.Toml
