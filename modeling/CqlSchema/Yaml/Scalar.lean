/-!
# Scalars

A scalar is a text with the style in which it is written and, perhaps, a tag. Only plain
scalars and scalars with one of the standard tags have a type of their own: null, truth value,
integer or real number. `Scalar.value?` finds it; it has none when a tag and a text disagree.
-/

namespace CqlSchema.Yaml

/-- Styles in which a scalar can be written. -/
inductive Style where
  | plain
  | singleQuoted
  | doubleQuoted
  | literal
  | folded
  deriving Repr, DecidableEq

/-- A resolved tag, as the bytes of its text. -/
structure Tag where
  bytes : List UInt8
  deriving Repr, DecidableEq

/-- Scalars as they are written. -/
structure Scalar where
  tag : Option Tag
  style : Style
  text : String
  deriving Repr, DecidableEq

/-- The scalar that stands where nothing is written. -/
def Scalar.empty : Scalar := ⟨none, .plain, ""⟩

namespace Tag

/-- Bytes of a text. -/
def ofText (text : String) : Tag :=
  ⟨text.toUTF8.toList⟩

/-- Part that the names of all standard tags start with. -/
def standardPart : String := "tag:yaml.org,2002:"

/-- Standard tag with the given short name. -/
def standard (name : String) : Tag :=
  ofText (standardPart ++ name)

/-- A tag that starts with an exclamation mark. -/
def isPrivate (tag : Tag) : Bool :=
  tag.bytes.head? == some 33

/-- A private tag whose name is a text; a value that carries one is a variant, not plain
data. -/
def isVariant (tag : Tag) : Bool :=
  tag.isPrivate && (String.fromUTF8? ⟨(tag.bytes.drop 1).toArray⟩).isSome

end Tag

/-- Real numbers as they are written: exact decimals, and the special values. -/
inductive RealNumber where
  | nan
  | infinity (negative : Bool)
  | decimal (negative : Bool) (digits : Nat) (exponent : Int)
  deriving Repr, DecidableEq

/-- Typed scalars. -/
inductive ScalarValue where
  | null
  | bool (value : Bool)
  | integer (value : Int)
  | real (value : RealNumber)
  | text (value : String)
  deriving Repr, DecidableEq

namespace ScalarValue

/-- Spellings of null. -/
def isNullText (text : String) : Bool :=
  text == "~" || text == "null" || text == "Null" || text == "NULL"

/-- Spellings of truth values. -/
def boolOfText? (text : String) : Option Bool :=
  if text = "true" ∨ text = "True" ∨ text = "TRUE" then some true
  else if text = "false" ∨ text = "False" ∨ text = "FALSE" then some false
  else none

/-- Value of a digit in bases up to sixteen. -/
def digit? (base : Nat) (c : Char) : Option Nat :=
  let value :=
    if '0' ≤ c ∧ c ≤ '9' then c.toNat - '0'.toNat
    else if 'a' ≤ c ∧ c ≤ 'f' then c.toNat - 'a'.toNat + 10
    else if 'A' ≤ c ∧ c ≤ 'F' then c.toNat - 'A'.toNat + 10
    else 16
  if value < base then some value else none

/-- Number that digits write in a base; there must be at least one. -/
def natOfDigits? (base : Nat) (digits : List Char) : Option Nat :=
  if digits.isEmpty then none
  else digits.foldlM (fun value c => (digit? base c).map (value * base + ·)) 0

/-- Digits that start with a zero and go on write no number. -/
def hasLeadingZero (digits : List Char) : Bool :=
  match digits with
  | '0' :: rest => !rest.isEmpty && rest.all Char.isDigit
  | _ => false

/-- Number without a sign: decimal, or hexadecimal, octal or binary behind `0x`, `0o`
or `0b`. -/
def magnitude? (text : List Char) : Option Nat :=
  match text with
  | '0' :: 'x' :: digits => natOfDigits? 16 digits
  | '0' :: 'o' :: digits => natOfDigits? 8 digits
  | '0' :: 'b' :: digits => natOfDigits? 2 digits
  | digits => if hasLeadingZero digits then none else natOfDigits? 10 digits

/-- Integer with an optional sign. -/
def integer? (text : String) : Option Int :=
  match text.toList with
  | '+' :: rest => (magnitude? rest).map Int.ofNat
  | '-' :: rest => (magnitude? rest).map fun value => -Int.ofNat value
  | rest => (magnitude? rest).map Int.ofNat

/-- Integers that some 64-bit word holds, with or without a sign. -/
def isWord (value : Int) : Bool :=
  -9223372036854775808 ≤ value && value < 18446744073709551616

/-- Integers that some 128-bit word holds, with or without a sign. -/
def isDoubleWord (value : Int) : Bool :=
  Int.negOfNat (Nat.pow 2 127) ≤ value && value < Int.ofNat (Nat.pow 2 128)

/-- Integer that a text writes, if it is not larger than a 128-bit word. -/
def boundedInteger? (text : String) : Option Int :=
  (integer? text).filter isDoubleWord

/-- Exponent behind a mantissa: nothing, or `e` with an optional sign and digits. -/
def exponent? : List Char → Option Int
  | [] => some 0
  | c :: rest =>
    if c = 'e' ∨ c = 'E' then
      match rest with
      | '+' :: digits => (natOfDigits? 10 digits).map Int.ofNat
      | '-' :: digits => (natOfDigits? 10 digits).map fun value => -Int.ofNat value
      | digits => (natOfDigits? 10 digits).map Int.ofNat
    else none

/-- Decimal without a sign: digits around an optional point, then an optional exponent. -/
def decimal? (text : List Char) : Option (Nat × Int) :=
  let whole := text.takeWhile Char.isDigit
  let after := text.dropWhile Char.isDigit
  let (fraction, after) := match after with
    | '.' :: rest => (rest.takeWhile Char.isDigit, rest.dropWhile Char.isDigit)
    | rest => ([], rest)
  do
    let digits ← natOfDigits? 10 (whole ++ fraction)
    let exponent ← exponent? after
    return (digits, exponent - Int.ofNat fraction.length)

/-- Decides whether a decimal rounds to a finite binary64 number: it is below the middle of the
largest such number and the power of two above it. The count of digits settles all but the
decimals near that bound. -/
def isFinite (digits : Nat) (exponent : Int) : Bool :=
  let bound := Nat.pow 2 1024 - Nat.pow 2 970
  let size := Int.ofNat (Nat.toDigits 10 digits).length + exponent
  if digits = 0 ∨ size < 300 then true
  else if size > 320 then false
  else if 0 ≤ exponent then digits * Nat.pow 10 exponent.toNat < bound
  else digits < bound * Nat.pow 10 (-exponent).toNat

/-- Real number that a text writes. -/
def real? (text : String) : Option RealNumber :=
  let chars := text.toList
  let unsigned := match chars with
    | '+' :: rest => rest
    | rest => rest
  let special (chars : List Char) : Bool :=
    chars = ['.', 'i', 'n', 'f'] || chars = ['.', 'I', 'n', 'f'] || chars = ['.', 'I', 'N', 'F']
  if text = ".nan" ∨ text = ".NaN" ∨ text = ".NAN" then some .nan
  else if special unsigned then some (.infinity false)
  else
    let (negative, absolute) := match chars with
      | '-' :: rest => (true, rest)
      | _ => (false, unsigned)
    if negative && special absolute then some (.infinity true)
    else match decimal? absolute with
      | some (digits, exponent) =>
        if isFinite digits exponent then
          if digits = 0 then some (.decimal false 0 0) else some (.decimal negative digits exponent)
        else none
      | none => none

/-- Digits that only look like a number because a zero leads them. -/
def looksOctal (text : String) : Bool :=
  match text.toList with
  | '+' :: rest => hasLeadingZero rest
  | '-' :: rest => hasLeadingZero rest
  | rest => hasLeadingZero rest

/-- Value of a plain scalar without a tag. -/
def ofPlain (text : String) : ScalarValue :=
  if text.isEmpty || isNullText text then .null
  else match boolOfText? text with
    | some value => .bool value
    | none =>
      match boundedInteger? text with
      | some value => .integer value
      | none =>
        match if looksOctal text then none else real? text with
        | some value => .real value
        | none => .text text

end ScalarValue

/-- Value of a scalar; none where a standard tag does not fit the text. -/
def Scalar.value? (scalar : Scalar) : Option ScalarValue :=
  match scalar.tag with
  | none => if scalar.style = .plain then some (.ofPlain scalar.text) else some (.text scalar.text)
  | some tag =>
    if tag = .standard "bool" then (ScalarValue.boolOfText? scalar.text).map .bool
    else if tag = .standard "int" then (ScalarValue.boundedInteger? scalar.text).map .integer
    else if tag = .standard "float" then (ScalarValue.real? scalar.text).map .real
    else if tag = .standard "null" then
      if ScalarValue.isNullText scalar.text then some .null else none
    else if tag.isPrivate && scalar.style = .plain then some (.ofPlain scalar.text)
    else some (.text scalar.text)

end CqlSchema.Yaml
