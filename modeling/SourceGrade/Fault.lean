import SourceGrade.OsError

/-!
# Faults

Why a file or directory could not be used: an error of the operating system, or an input or output
error with words of its own.
-/

namespace SourceGrade

inductive IoError where
  | os (error : OsError)
  | custom (message : Text)
deriving DecidableEq

namespace IoError

def message : IoError → Text
  | os error => error.message
  | custom message => message

/-- No path holds a NUL byte. -/
def nulInPath : IoError := custom "file name contained an unexpected NUL byte"

/-- The error as a record of its parts. -/
def details : IoError → Text
  | os error =>
    "Os \x7b code: " ++ Text.ofInt error.code ++ ", kind: " ++ error.kind ++ ", message: \"" ++
      error.words ++ "\" \x7d"
  | custom message => "Error \x7b kind: InvalidInput, message: \"" ++ message ++ "\" \x7d"

end IoError

inductive Fault where
  | io (error : IoError)
  | other (message : Text)
deriving DecidableEq

namespace Fault

def message : Fault → Text
  | io error => "io error: " ++ error.message
  | other message => message

/-- The error behind a fault, if there is one. -/
def source? : Fault → Option IoError
  | io error => some error
  | other _ => none

end Fault

end SourceGrade
