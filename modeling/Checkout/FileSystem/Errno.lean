/-!
# Failures of the file system

An `Errno` is a refusal by the system, an `IoError` any failure of reading or writing. `message` is
the wording of each.
-/

namespace Checkout

/-- A refusal by the system. -/
inductive Errno where
  | noEntry
  | execFormat
  | accessDenied
  | exists
  | notDirectory
  | isDirectory
  | argumentsTooLong
  | nameTooLong
  | tooManyLinks
  deriving DecidableEq, Repr

namespace Errno

/-- The number of the refusal. -/
def number : Errno → Nat
  | .noEntry => 2
  | .argumentsTooLong => 7
  | .execFormat => 8
  | .accessDenied => 13
  | .exists => 17
  | .notDirectory => 20
  | .isDirectory => 21
  | .nameTooLong => 36
  | .tooManyLinks => 40

/-- What the refusal says. -/
def description : Errno → String
  | .noEntry => "No such file or directory"
  | .argumentsTooLong => "Argument list too long"
  | .execFormat => "Exec format error"
  | .accessDenied => "Permission denied"
  | .exists => "File exists"
  | .notDirectory => "Not a directory"
  | .isDirectory => "Is a directory"
  | .nameTooLong => "File name too long"
  | .tooManyLinks => "Too many levels of symbolic links"

/-- The refusal with its number. -/
def message (e : Errno) : String := s!"{e.description} (os error {e.number})"

end Errno

/-- A failure of reading or writing. -/
inductive IoError where
  | os (e : Errno)
  /-- Bytes that are read as text are not well formed. -/
  | notText
  /-- A path name holds the character with number zero. -/
  | nulInPath
  /-- A failure that is known by its wording only. -/
  | other (text : String)
  deriving DecidableEq, Repr

/-- The wording of the failure. -/
def IoError.message : IoError → String
  | .os e => e.message
  | .notText => "stream did not contain valid UTF-8"
  | .nulInPath => "file name contained an unexpected NUL byte"
  | .other text => text

end Checkout
