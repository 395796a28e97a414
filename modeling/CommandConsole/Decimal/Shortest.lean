/-!
# The shortest decimal that reads back

A binary floating point number stands for all the reals that round to it: an interval
around its exact value, its ends included if the last bit of the number is zero. Of the
decimals in that interval, the one with the fewest digits is written (`Decimal.shortest?`).

The search tries one **grid** after the other, the multiples of a power of ten, from the
coarsest on. On each it looks at the two neighbours of the exact value. The first grid that
has one of them in the interval is the coarsest that has any number there, so its decimals
have the fewest digits. Of two that fit, the nearer is taken, and of equally near ones the
even one. All of this is exact arithmetic on natural numbers.
-/

namespace CommandConsole

/-- A finite number above zero, `significand * 2 ^ exponent`. -/
structure Binary where
  significand : Nat
  exponent : Int
  /-- Whether the next number below is only half as far away as the next one above. -/
  narrowBelow : Bool
  deriving DecidableEq, Repr

namespace Binary

/-- The number that the bits of a finite double stand for, its sign aside. -/
def ofBits (bits : UInt64) : Binary :=
  let exponent := ((bits >>> 52) &&& 0x7ff).toNat
  let fraction := (bits &&& 0xfffffffffffff).toNat
  if exponent = 0 then ⟨fraction, -1074, false⟩
  else ⟨Nat.pow 2 52 + fraction, (exponent : Int) - 1075, fraction == 0 && exponent > 1⟩

/-- The lower end of the interval, in quarters of the last bit. -/
def low (b : Binary) : Nat := 4 * b.significand - (if b.narrowBelow then 1 else 2)

/-- The upper end of the interval, in quarters of the last bit. -/
def high (b : Binary) : Nat := 4 * b.significand + 2

end Binary

/-- The number `digits * 10 ^ exponent`. -/
structure Decimal where
  digits : Nat
  exponent : Int
  deriving DecidableEq, Repr

namespace Decimal

/-- A positive fraction. -/
structure Ratio where
  top : Nat
  bottom : Nat

/-- A quarter of the last bit of a number in units of a power of ten. -/
def quarter (b : Binary) (grid : Int) : Ratio :=
  let e := b.exponent - 2
  ⟨Nat.pow 2 e.toNat * Nat.pow 10 (-grid).toNat, Nat.pow 2 (-e).toNat * Nat.pow 10 grid.toNat⟩

/-- Whether `n` units of a grid lie in the interval of a number; `unit` is a quarter of its
last bit in units of the grid. -/
def fits (b : Binary) (unit : Ratio) (n : Nat) : Bool :=
  let low := b.low * unit.top
  let high := b.high * unit.top
  let x := n * unit.bottom
  if b.significand % 2 = 0 then low ≤ x && x ≤ high else low < x && x < high

/-- The better of the two neighbours of a number on a grid, if either lies in its interval. -/
def onGrid? (b : Binary) (grid : Int) : Option Decimal :=
  let unit := quarter b grid
  let exact := 4 * b.significand * unit.top
  let below := exact / unit.bottom
  let above := below + 1
  match 0 < below && fits b unit below, fits b unit above with
  | false, false => none
  | true, false => some ⟨below, grid⟩
  | false, true => some ⟨above, grid⟩
  | true, true =>
    -- twice the exact value lies on the side of the nearer one of their sum
    match compare (2 * exact) ((below + above) * unit.bottom) with
    | .lt => some ⟨below, grid⟩
    | .gt => some ⟨above, grid⟩
    | .eq => some ⟨if below % 2 = 0 then below else above, grid⟩

/-- The finest grid that may be needed. -/
def finest : Int := -343

/-- Searches `n` grids, the last of which is the finest. -/
def search? (b : Binary) : Nat → Option Decimal
  | 0 => none
  | n + 1 => (onGrid? b (finest + n)).or (search? b n)

/-- The shortest decimal in the interval of a number. -/
def shortest? (b : Binary) : Option Decimal := search? b 655

end Decimal

end CommandConsole
