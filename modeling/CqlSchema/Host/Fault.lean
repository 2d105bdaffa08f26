/-!
# Faults of a host

The ways in which a host refuses to read, write or start something, with the wording and the
number that each has on every host.
-/

namespace CqlSchema.Host

/-- Reasons for which a host refuses an operation. -/
inductive Fault where
  | missing
  | tooManyArguments
  | notProgram
  | denied
  | alreadyPresent
  | notDirectory
  | isDirectory
  | nameTooLong
  | notText
  | zeroInPath
  | zeroInArgument
  deriving Repr, DecidableEq

namespace Fault

/-- Number of a fault, if the operating system knows it. -/
def number? : Fault → Option Nat
  | .missing => some 2
  | .tooManyArguments => some 7
  | .notProgram => some 8
  | .denied => some 13
  | .alreadyPresent => some 17
  | .notDirectory => some 20
  | .isDirectory => some 21
  | .nameTooLong => some 36
  | .notText => none
  | .zeroInPath => none
  | .zeroInArgument => none

/-- Wording of a fault. -/
def reason : Fault → String
  | .missing => "No such file or directory"
  | .tooManyArguments => "Argument list too long"
  | .notProgram => "Exec format error"
  | .denied => "Permission denied"
  | .alreadyPresent => "File exists"
  | .notDirectory => "Not a directory"
  | .isDirectory => "Is a directory"
  | .nameTooLong => "File name too long"
  | .notText => "stream did not contain valid UTF-8"
  | .zeroInPath => "file name contained an unexpected NUL byte"
  | .zeroInArgument => "nul byte found in provided data"

/-- Wording of a fault with its number. -/
def message (fault : Fault) : String :=
  match fault.number? with
  | some number => s!"{fault.reason} (os error {number})"
  | none => fault.reason

end Fault

end CqlSchema.Host
