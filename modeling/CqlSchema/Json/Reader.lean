import CqlSchema.Json
/-!
# Reading JSON

A text is cut into tokens, and the tokens are read with a stack of the arrays and objects that
are still open. Everything that stands in the text is kept: the order of members, repeated keys
and the spelling of literals.
-/

namespace CqlSchema.Json

/-- Tokens of a JSON text. -/
inductive Token where
  | mark (char : Char)
  | word (text : String)
  | number (written : String)
  | string (literal : String)
  deriving Repr, DecidableEq

namespace Token

/-- Blanks between tokens. -/
def isSpace (c : Char) : Bool :=
  c = ' ' || c = '\t' || c = '\n' || c = '\r'

/-- Characters that may occur in a number. -/
def isNumeric (c : Char) : Bool :=
  c.isDigit || c = '+' || c = '-' || c = '.' || c = 'e' || c = 'E'

/-- Drops a run of digits, which must not be empty. -/
def dropDigits? (text : List Char) : Option (List Char) :=
  match text with
  | c :: rest => if c.isDigit then some (rest.dropWhile Char.isDigit) else none
  | [] => none

/-- Drops a minus sign, if there is one. -/
def dropSign : List Char → List Char
  | '-' :: rest => rest
  | text => text

/-- Drops an integer part: a zero, or digits that do not start with one. -/
def dropInteger? : List Char → Option (List Char)
  | '0' :: rest => some rest
  | text => dropDigits? text

/-- Drops a fraction, if there is one. -/
def dropFraction? : List Char → Option (List Char)
  | '.' :: rest => dropDigits? rest
  | text => some text

/-- Drops an exponent, if there is one. -/
def dropExponent? : List Char → Option (List Char)
  | c :: rest =>
    if c = 'e' ∨ c = 'E' then
      match rest with
      | s :: digits => if s = '+' ∨ s = '-' then dropDigits? digits else dropDigits? rest
      | [] => none
    else some (c :: rest)
  | [] => some []

/-- Decides whether a text is a number. -/
def isNumber (text : List Char) : Bool :=
  ((dropInteger? (dropSign text)).bind dropFraction?).bind dropExponent? == some []

/-- Splits a text after the opening quote into the inside of the literal and what follows the
closing quote. Control characters and unknown escapes are refused. -/
def splitLiteral : List Char → Option (List Char × List Char)
  | [] => none
  | '\\' :: 'u' :: a :: b :: c :: d :: rest =>
    if (unit? a b c d).isSome then
      (splitLiteral rest).map fun (inside, after) =>
        ('\\' :: 'u' :: a :: b :: c :: d :: inside, after)
    else none
  | '\\' :: c :: rest =>
    if (simpleEscape? c).isSome then
      (splitLiteral rest).map fun (inside, after) => ('\\' :: c :: inside, after)
    else none
  | c :: rest =>
    if c = '\x22' then some ([], rest)
    else if c = '\\' ∨ c.toNat < 32 then none
    else (splitLiteral rest).map fun (inside, after) => (c :: inside, after)

/-- What follows a literal is shorter than the text after its opening quote. -/
theorem length_splitLiteral {text inside after : List Char}
    (split : splitLiteral text = some (inside, after)) : after.length < text.length := by
  fun_induction splitLiteral text generalizing inside after with
  | case1 => cases split
  | case2 a b c d rest valid ih =>
    obtain ⟨⟨left, right⟩, found, shape⟩ := Option.map_eq_some_iff.1 split
    cases shape
    have := ih found
    simp only [List.length_cons]
    omega
  | case3 => cases split
  | case4 c rest other valid ih =>
    obtain ⟨⟨left, right⟩, found, shape⟩ := Option.map_eq_some_iff.1 split
    cases shape
    have := ih found
    simp only [List.length_cons]
    omega
  | case5 => cases split
  | case6 =>
    cases split
    simp
  | case7 => cases split
  | case8 c rest _ _ _ _ ih =>
    obtain ⟨⟨left, right⟩, found, shape⟩ := Option.map_eq_some_iff.1 split
    cases shape
    have := ih found
    simp only [List.length_cons]
    omega

/-- Tokens of a text. -/
def ofChars (text : List Char) : Option (List Token) :=
  match text with
  | [] => some []
  | c :: rest =>
    if isSpace c then ofChars rest
    else if c = '\x22' then
      match found : splitLiteral rest with
      | none => none
      | some (inside, after) =>
        have := length_splitLiteral found
        (ofChars after).map (.string (String.ofList inside) :: ·)
    else if c.isAlpha then
      let word := c :: rest.takeWhile Char.isAlpha
      (ofChars (rest.dropWhile Char.isAlpha)).map (.word (String.ofList word) :: ·)
    else if isNumeric c then
      let written := c :: rest.takeWhile isNumeric
      if isNumber written then
        (ofChars (rest.dropWhile isNumeric)).map (.number (String.ofList written) :: ·)
      else none
    else (ofChars rest).map (.mark c :: ·)
  termination_by text.length
  decreasing_by
    all_goals simp only [List.length_cons]
    · exact Nat.lt_succ_self _
    · omega
    · exact Nat.lt_succ_of_le (List.dropWhile_suffix _).length_le
    · exact Nat.lt_succ_of_le (List.dropWhile_suffix _).length_le
    · exact Nat.lt_succ_self _

end Token

/-- An open array or object, with what it holds so far; an object also holds the key of the
value that is being read. -/
inductive Frame where
  | array (items : List Json)
  | object (members : List (String × Json)) (key : String)

mutual

/-- Reads a value inside the given frames, innermost first. -/
def readValue (frames : List Frame) : List Token → Option Json
  | .mark '[' :: .mark ']' :: rest => closeValue (.array []) frames rest
  | .mark '[' :: rest => readValue (.array [] :: frames) rest
  | .mark '{' :: .mark '}' :: rest => closeValue (.object []) frames rest
  | .mark '{' :: .string key :: .mark ':' :: rest => readValue (.object [] key :: frames) rest
  | .string literal :: rest => closeValue (.string literal) frames rest
  | .number written :: rest => closeValue (.number written) frames rest
  | .word "null" :: rest => closeValue .null frames rest
  | .word "true" :: rest => closeValue (.bool true) frames rest
  | .word "false" :: rest => closeValue (.bool false) frames rest
  | _ => none

/-- Continues after a complete value: hands it to the innermost frame, or ends the text. -/
def closeValue (value : Json) : List Frame → List Token → Option Json
  | [], [] => some value
  | .array items :: frames, .mark ',' :: rest =>
    readValue (.array (items ++ [value]) :: frames) rest
  | .array items :: frames, .mark ']' :: rest =>
    closeValue (.array (items ++ [value])) frames rest
  | .object members key :: frames, .mark ',' :: .string next :: .mark ':' :: rest =>
    readValue (.object (members ++ [(key, value)]) next :: frames) rest
  | .object members key :: frames, .mark '}' :: rest =>
    closeValue (.object (members ++ [(key, value)])) frames rest
  | _, _ => none

end

/-- Value that a text writes. -/
def parse? (text : String) : Option Json := do
  let tokens ← Token.ofChars text.toList
  readValue [] tokens

end CqlSchema.Json
