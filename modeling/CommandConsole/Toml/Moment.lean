import CommandConsole.Text.Basic

/-!
# Dates and times in TOML documents

A **date** is a year of four digits, a month and a day, `1979-05-27`, and has to be in the
calendar. A **time** is an hour, a minute and a second, `07:32:00`, perhaps with a fraction
of a second; the second may be a leap second. A date and a time may be joined by a `T` or a
space, and only then may an offset from universal time follow, `Z` or `-07:00`.

No setting of this library is a date or a time. What matters is where one ends, and that it
is one: the readers here give the rest of the text.
-/

namespace CommandConsole.Toml

/-- The number that a text of some digits writes. -/
def digitsValue? (text : Text) : Option Nat :=
  if text.all Char.isDigit then some (text.foldl (fun n c => 10 * n + (c.toNat - 48)) 0)
  else none

/-- Reads a number of two digits within bounds. -/
def readTwoDigits (low high : Nat) : Text → Option (Nat × Text)
  | a :: b :: rest =>
    ((digitsValue? [a, b]).filter fun n => low ≤ n && n ≤ high).map fun n => (n, rest)
  | _ => none

/-- Reads a mark. -/
def skipMark (mark : Char) : Text → Option Text
  | c :: rest => if c = mark then some rest else none
  | [] => none

/-- Whether a year has a day more than others. -/
def isLeapYear (year : Nat) : Bool :=
  year % 4 = 0 && (year % 100 ≠ 0 || year % 400 = 0)

/-- The number of days of a month. -/
def daysOf (year month : Nat) : Nat :=
  if month = 2 then if isLeapYear year then 29 else 28
  else if month = 4 || month = 6 || month = 9 || month = 11 then 30
  else 31

/-- Reads a date. -/
def skipDate (text : Text) : Option Text := do
  let year ← if 4 ≤ text.length then digitsValue? (text.take 4) else none
  let (month, rest) ← readTwoDigits 1 12 (← skipMark '-' (text.drop 4))
  let (_, rest) ← readTwoDigits 1 (daysOf year month) (← skipMark '-' rest)
  some rest

/-- Reads the fraction of a second, if there is one. -/
def skipFraction : Text → Option Text
  | '.' :: rest =>
    if rest.head?.any Char.isDigit then some (rest.dropWhile Char.isDigit) else none
  | text => some text

/-- Reads a time. -/
def skipTime (text : Text) : Option Text := do
  let (_, rest) ← readTwoDigits 0 23 text
  let (_, rest) ← readTwoDigits 0 59 (← skipMark ':' rest)
  let (_, rest) ← readTwoDigits 0 60 (← skipMark ':' rest)
  skipFraction rest

/-- Reads an offset from universal time, if there is one. -/
def skipOffset : Text → Option Text
  | [] => some []
  | c :: rest =>
    if c = 'Z' || c = 'z' then some rest
    else if c = '+' || c = '-' then do
      let (_, rest) ← readTwoDigits 0 23 rest
      let (_, rest) ← readTwoDigits 0 59 (← skipMark ':' rest)
      some rest
    else some (c :: rest)

/-- Reads a time and the offset that may follow it. -/
def skipTimeAndOffset (text : Text) : Option Text := do skipOffset (← skipTime text)

/-- Reads a date, a time, or both. -/
def skipMoment (text : Text) : Option Text :=
  match skipDate text with
  | none => skipTime text
  | some (c :: rest) =>
    if c = 'T' || c = 't' then skipTimeAndOffset rest
    -- a space is a gap like any other, unless a time stands after it
    else if c = ' ' && rest.head?.any Char.isDigit then skipTimeAndOffset rest
    else some (c :: rest)
  | some [] => some []

end CommandConsole.Toml
