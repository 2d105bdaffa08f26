/-!
# Ports

A port is a number of 16 bits. Its text is a number with an optional plus sign; of two faults the
one further left counts.
-/

namespace CqlSchema.Settings

/-- Largest port. -/
def maxPort : Nat := 65535

/-- Faults of a text that is no port. -/
inductive PortFault where
  | empty
  | digit
  | tooLarge
  deriving Repr, DecidableEq

/-- Wording of a fault. -/
def PortFault.reason : PortFault → String
  | .empty => "cannot parse integer from empty string"
  | .digit => "invalid digit found in string"
  | .tooLarge => "number too large to fit in target type"

/-- Reads the digits of a port after those that give `value`. -/
def portOfDigits (value : Nat) : List Char → Except PortFault Nat
  | [] => .ok value
  | c :: rest =>
    if !c.isDigit then .error .digit
    else
      let extended := value * 10 + (c.toNat - '0'.toNat)
      if maxPort < extended then .error .tooLarge else portOfDigits extended rest

/-- Port that a text writes. -/
def portOfText (text : String) : Except PortFault Nat :=
  match text.toList with
  | [] => .error .empty
  | '+' :: first :: rest => portOfDigits 0 (first :: rest)
  | digits => portOfDigits 0 digits

end CqlSchema.Settings
