import CommandConsole.Setting

/-!
# Numbers in settings

A number in a document of settings has an optional minus sign, digits, and perhaps a
fraction and an exponent. Without the last two it is a whole number, as long as it fits
into sixty-four bits; otherwise, and for minus zero, it is a floating point number.

The value of a floating point number is found in two steps. The digits are gathered into a
whole number of sixty-four bits; those that do not fit are dropped, but those before the
point still count for the exponent. Then that number is multiplied or divided by a power of
ten, each operation rounding once. So a long number may miss its exact value by a little.
-/

namespace CommandConsole.Setting

/-- The digits of a number that have been gathered. -/
structure Gathered where
  digits : Nat
  /-- How many digits they are. -/
  count : Nat
  rest : Text

/-- The greatest number that digits are gathered into. -/
def greatest : Nat := 0xffffffffffffffff

/-- Gathers digits up to the first that does not fit any more. -/
def gather (digits count : Nat) : Text → Gathered
  | [] => ⟨digits, count, []⟩
  | c :: rest =>
    let next := 10 * digits + (c.toNat - 48)
    if c.isDigit && next ≤ greatest then gather next (count + 1) rest
    else ⟨digits, count, c :: rest⟩

/-- A power of ten. -/
def powerOfTen (n : Nat) : Float := Float.ofScientific 1 false n

/-- The greatest power of ten that is a floating point number. -/
def greatestPower : Nat := 308

/-- Multiplies a number by a power of ten. Two divisions by the greatest power are enough
to make any number vanish, so `bound` need not be more. -/
def scale (x : Float) (exponent : Int) : Nat → Float
  | 0 => 0
  | bound + 1 =>
    if exponent.natAbs ≤ greatestPower then
      if 0 ≤ exponent then x * powerOfTen exponent.natAbs else x / powerOfTen exponent.natAbs
    else if x == 0 then x
    else if 0 ≤ exponent then 1 / 0
    else scale (x / powerOfTen greatestPower) (exponent + greatestPower) bound

/-- The floating point number of some digits, a sign and an exponent. -/
def floatOf (negative : Bool) (digits : Nat) (exponent : Int) : Setting :=
  let x := scale (UInt64.ofNat digits).toFloat exponent 4
  .float (if negative then -x else x)

/-- The number that an exponent writes. -/
def exponentOf : Text → Int
  | '-' :: digits => -(gatherAll digits : Int)
  | '+' :: digits => gatherAll digits
  | digits => gatherAll digits
where
  /-- The number that digits write. -/
  gatherAll (digits : Text) : Nat :=
    digits.foldl (fun n c => 10 * n + (c.toNat - 48)) 0

/-- Reads what follows the digits of a fraction. -/
def ofExponent (negative : Bool) (digits : Nat) (exponent : Int) (numeral : Text) : Setting :=
  match numeral.dropWhile Char.isDigit with
  | [] => floatOf negative digits exponent
  | _ :: rest => floatOf negative digits (exponent + exponentOf rest)

/-- Reads what follows the digits before the point. -/
def ofFraction (negative : Bool) (digits : Nat) (exponent : Int) : Text → Setting
  | '.' :: rest =>
    let g := gather digits 0 rest
    ofExponent negative g.digits (exponent - g.count) g.rest
  | numeral => ofExponent negative digits exponent numeral

/-- The whole number of some digits and a sign, if it fits into sixty-four bits. -/
def ofWhole (negative : Bool) (digits : Nat) : Setting :=
  if !negative then .integer digits
  else if 0 < digits && digits ≤ 0x8000000000000000 then .integer (-digits)
  else floatOf true digits 0

/-- Reads a number. -/
def ofNumeral (numeral : Text) : Setting :=
  let negative := numeral.head? = some '-'
  let g := gather 0 0 (if negative then numeral.drop 1 else numeral)
  if g.rest.isEmpty then ofWhole negative g.digits
  else
    let dropped := g.rest.takeWhile Char.isDigit
    ofFraction negative g.digits dropped.length (g.rest.drop dropped.length)

end CommandConsole.Setting
