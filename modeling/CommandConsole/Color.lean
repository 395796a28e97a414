import CommandConsole.Text.Quoted

/-!
# Colours

A **colour** has a red, a green and a blue channel of eight bits each, and is written
`#RRGGBB` in upper-case hexadecimal digits. Reading is a little more generous than writing:
the `#` may be missing, and the digits may be of either case. Nothing else is a colour.

* `Color.toText` writes a colour, `Color.parse` reads one;
* `Color.parse_toText` says that what was written is read back.
-/

namespace CommandConsole

/-- A colour of three channels. -/
structure Color where
  red : UInt8
  green : UInt8
  blue : UInt8
  deriving DecidableEq, Repr

namespace Color

/-- The value of a hexadecimal digit of either case. -/
def hexValue? (c : Char) : Option Nat :=
  if '0' ≤ c ∧ c ≤ '9' then some (c.toNat - 48)
  else if 'a' ≤ c ∧ c ≤ 'f' then some (c.toNat - 87)
  else if 'A' ≤ c ∧ c ≤ 'F' then some (c.toNat - 55)
  else none

/-- The upper-case hexadecimal digit of a value below sixteen. -/
def hexDigit (n : Nat) : Char :=
  Char.ofNat (if n < 10 then 48 + n else 55 + n)

/-- The channel that two hexadecimal digits write. -/
def channel? (high low : Char) : Option UInt8 :=
  match hexValue? high, hexValue? low with
  | some h, some l => some (UInt8.ofNat (16 * h + l))
  | _, _ => none

/-- The two hexadecimal digits of a channel. -/
def channelText (n : UInt8) : Text :=
  [hexDigit (n.toNat / 16), hexDigit (n.toNat % 16)]

/-- The colour that six hexadecimal digits write. -/
def ofDigits? : Text → Option Color
  | [r, r', g, g', b, b'] =>
    match channel? r r', channel? g g', channel? b b' with
    | some red, some green, some blue => some ⟨red, green, blue⟩
    | _, _, _ => none
  | _ => none

/-- A text that writes no colour. -/
structure Invalid where
  text : Text
  deriving DecidableEq, Repr

/-- The error in words. -/
def Invalid.message (e : Invalid) : Text :=
  "invalid colour " ++ Text.quoted e.text ++ ", expected #RRGGBB"

/-- A text without one leading `#`. -/
def withoutHash : Text → Text
  | '#' :: rest => rest
  | text => text

/-- Reads six hexadecimal digits after an optional `#`. -/
def parse (text : Text) : Except Invalid Color :=
  match ofDigits? (withoutHash text) with
  | some color => .ok color
  | none => .error ⟨text⟩

/-- Writes `#RRGGBB`. -/
def toText (c : Color) : Text :=
  '#' :: (channelText c.red ++ channelText c.green ++ channelText c.blue)

theorem hexValue?_hexDigit {n : Nat} (h : n < 16) : hexValue? (hexDigit n) = some n := by
  have hall : ∀ k ∈ List.range 16, hexValue? (hexDigit k) = some k := by decide
  exact hall n (List.mem_range.2 h)

theorem channel?_digits (n : UInt8) :
    channel? (hexDigit (n.toNat / 16)) (hexDigit (n.toNat % 16)) = some n := by
  have hn := n.toNat_lt
  rw [channel?, hexValue?_hexDigit (by omega), hexValue?_hexDigit (by omega)]
  simp only [Option.some.injEq]
  rw [show 16 * (n.toNat / 16) + n.toNat % 16 = n.toNat by omega]
  exact UInt8.ofNat_toNat

/-- Every colour is read back from its written form. -/
theorem parse_toText (c : Color) : parse c.toText = .ok c := by
  simp [parse, toText, withoutHash, channelText, ofDigits?, channel?_digits]

end Color

end CommandConsole
