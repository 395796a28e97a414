import CommandConsole.Text.Basic

/-!
# What can go wrong with files and devices

Operations on files and devices fail for one of these reasons. Most are reported in the
words and with the number that the operating system gives them. A path with a null
character never gets as far as the operating system, so that failure has no number.
-/

namespace CommandConsole

/-- Why an operation on a file or a device failed. -/
inductive FileError where
  | notFound
  | alreadyExists
  | notADirectory
  | isADirectory
  | noSpace
  | nameTooLong
  /-- The path has a null character in it. -/
  | nullInPath
  deriving DecidableEq, Repr

namespace FileError

/-- The number of the error, if it has one. -/
def number? : FileError → Option Nat
  | notFound => some 2
  | alreadyExists => some 17
  | notADirectory => some 20
  | isADirectory => some 21
  | noSpace => some 28
  | nameTooLong => some 36
  | nullInPath => none

/-- What the error is called. -/
def title : FileError → Text
  | notFound => "No such file or directory"
  | alreadyExists => "File exists"
  | notADirectory => "Not a directory"
  | isADirectory => "Is a directory"
  | noSpace => "No space left on device"
  | nameTooLong => "File name too long"
  | nullInPath => "file name contained an unexpected NUL byte"

/-- The error in words. -/
def message (e : FileError) : Text :=
  match e.number? with
  | some n => e.title ++ " (os error " ++ toString n ++ ")"
  | none => e.title

end FileError

end CommandConsole
