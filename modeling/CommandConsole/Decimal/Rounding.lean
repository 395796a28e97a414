import CommandConsole.Decimal.Shortest

/-!
# From decimals to floating point numbers

The floating point number nearest to a decimal. Powers of ten that are far beyond the range
are never computed: such a decimal is infinite or vanishes.
-/

namespace CommandConsole.Decimal

/-- The floating point number nearest to a decimal. -/
def toFloat (d : Decimal) : Float :=
  let magnitude := d.exponent + (Nat.toDigits 10 d.digits).length
  if d.digits = 0 || magnitude < -330 then 0
  else if 310 < magnitude then 1 / 0
  else Float.ofScientific d.digits (d.exponent < 0) d.exponent.natAbs

end CommandConsole.Decimal
