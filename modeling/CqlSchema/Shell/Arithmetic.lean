/-!
# Arithmetic

Sums of a script: numbers, variables, brackets, and the operators of two levels. A division by
zero has no value.
-/

namespace CqlSchema.Shell.Arithmetic

/-- Tokens of a sum. -/
inductive Token where
  | number (value : Int)
  | mark (c : Char)
  deriving Repr, DecidableEq

/-- Number that digits write. -/
def ofDigits (digits : List Char) : Int :=
  digits.foldl (fun value c => value * 10 + (c.toNat - 48 : Nat)) 0

/-- Number that a text writes; other texts count as zero. -/
def ofText (text : String) : Int :=
  match text.toList with
  | '-' :: digits => -ofDigits (digits.takeWhile Char.isDigit)
  | digits => ofDigits (digits.takeWhile Char.isDigit)

/-- Cuts a sum into tokens and replaces variables by their values. -/
def tokens (lookup : String → String) (fuel : Nat) (text : List Char) : List Token :=
  match fuel, text with
  | fuel + 1, c :: rest =>
    if c.isDigit then
      let digits := (c :: rest).takeWhile Char.isDigit
      .number (ofDigits digits) :: tokens lookup fuel ((c :: rest).dropWhile Char.isDigit)
    else if c.isAlpha || c = '_' then
      let isPart (c : Char) : Bool := c.isAlphanum || c = '_'
      let name := String.ofList ((c :: rest).takeWhile isPart)
      .number (ofText (lookup name)) :: tokens lookup fuel ((c :: rest).dropWhile isPart)
    else if c = ' ' || c = '\t' || c = '\n' || c = '$' then tokens lookup fuel rest
    else .mark c :: tokens lookup fuel rest
  | _, _ => []

mutual

/-- Value of a sum, and what is behind it. -/
def sum (fuel : Nat) (tokens : List Token) : Option (Int × List Token) :=
  match fuel with
  | 0 => none
  | fuel + 1 => (product fuel tokens).bind fun (value, rest) => moreTerms fuel value rest

/-- Adds and subtracts the terms that follow. -/
def moreTerms (fuel : Nat) (value : Int) (tokens : List Token) : Option (Int × List Token) :=
  match fuel, tokens with
  | fuel + 1, .mark '+' :: rest =>
    (product fuel rest).bind fun (term, after) => moreTerms fuel (value + term) after
  | fuel + 1, .mark '-' :: rest =>
    (product fuel rest).bind fun (term, after) => moreTerms fuel (value - term) after
  | _, rest => some (value, rest)

/-- Value of a product, and what is behind it. -/
def product (fuel : Nat) (tokens : List Token) : Option (Int × List Token) :=
  match fuel with
  | 0 => none
  | fuel + 1 => (factor fuel tokens).bind fun (value, rest) => moreFactors fuel value rest

/-- Multiplies and divides by the factors that follow. -/
def moreFactors (fuel : Nat) (value : Int) (tokens : List Token) : Option (Int × List Token) :=
  match fuel, tokens with
  | fuel + 1, .mark '*' :: rest =>
    (factor fuel rest).bind fun (other, after) => moreFactors fuel (value * other) after
  | fuel + 1, .mark '/' :: rest =>
    (factor fuel rest).bind fun (divisor, after) =>
      if divisor = 0 then none else moreFactors fuel (value.tdiv divisor) after
  | fuel + 1, .mark '%' :: rest =>
    (factor fuel rest).bind fun (divisor, after) =>
      if divisor = 0 then none else moreFactors fuel (value.tmod divisor) after
  | _, rest => some (value, rest)

/-- Value of a number, a negated factor or a sum in brackets, and what is behind it. -/
def factor (fuel : Nat) (tokens : List Token) : Option (Int × List Token) :=
  match fuel, tokens with
  | _ + 1, .number value :: rest => some (value, rest)
  | fuel + 1, .mark '-' :: rest => (factor fuel rest).map fun (value, after) => (-value, after)
  | fuel + 1, .mark '(' :: rest =>
    (sum fuel rest).bind fun (value, after) =>
      if after.head? = some (.mark ')') then some (value, after.drop 1) else none
  | _, _ => none

end

/-- Value of a sum as text. -/
def evaluate? (lookup : String → String) (text : List Char) : Option String := do
  let parts := tokens lookup (text.length + 1) text
  let (value, rest) ← sum (4 * parts.length + 4) parts
  if rest.isEmpty then return toString value else failure

end CqlSchema.Shell.Arithmetic
