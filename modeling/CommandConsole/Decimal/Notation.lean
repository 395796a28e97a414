import CommandConsole.Decimal.Shortest
import CommandConsole.Text.Basic

/-!
# Decimal notation

A floating point number is written with the fewest digits that read back, and always with a
point or an exponent, so that it cannot be taken for a whole number. Numbers from `0.00001`
up to, but not including, `1e+16` are written in full. All others have one digit before the
point and an exponent with its sign.
-/

namespace CommandConsole

namespace Decimal

/-- Zeros in a row. -/
def zeros (n : Nat) : Text := List.replicate n '0'

/-- The exponent of the first digit. -/
def magnitude (d : Decimal) : Int := d.exponent + (Nat.toDigits 10 d.digits).length - 1

/-- A decimal written in full. -/
def plain (d : Decimal) : Text :=
  let digits := Nat.toDigits 10 d.digits
  if 0 ≤ d.exponent then digits ++ zeros d.exponent.toNat ++ ['.', '0']
  else if 0 ≤ d.magnitude then
    let whole := (d.magnitude + 1).toNat
    digits.take whole ++ ['.'] ++ digits.drop whole
  else ['0', '.'] ++ zeros (-d.magnitude - 1).toNat ++ digits

/-- A decimal written with an exponent. -/
def scientific (d : Decimal) : Text :=
  let digits := Nat.toDigits 10 d.digits
  let point : Text := if digits.length ≤ 1 then [] else ['.']
  let sign : Text := if d.magnitude < 0 then ['-'] else ['+']
  digits.take 1 ++ point ++ digits.drop 1 ++ ['e'] ++ sign ++
    Nat.toDigits 10 d.magnitude.natAbs

/-- A decimal as it is written. -/
def toText (d : Decimal) : Text :=
  if -5 ≤ d.magnitude && d.magnitude < 16 then d.plain else d.scientific

/-- A floating point number as it is written. -/
def ofFloat (x : Float) : Text :=
  if x.isNaN then "NaN"
  else
    let sign : Text := if x.toBits >>> 63 = 1 then ['-'] else []
    if x.isInf then sign ++ "inf"
    else if x == 0 then sign ++ "0.0"
    else sign ++ ((shortest? (.ofBits x.toBits)).map toText).getD []

end Decimal

end CommandConsole
