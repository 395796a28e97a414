import CommandConsole.Text.Basic

/-!
# Ending a program with a code

A run that ends the program before its time says with which code, and may leave a message
to be shown. Most runs have said all there is to say, and end silently.
-/

namespace CommandConsole

/-- A code to end the program with, and what remains to be said. -/
structure Exit where
  code : Int
  message : Text
  deriving DecidableEq, Repr

namespace Exit

/-- An end with nothing to say. -/
def silent (code : Int) : Exit := ⟨code, []⟩

/-- What is shown. -/
def shown (e : Exit) : Text := e.message

end Exit

end CommandConsole
