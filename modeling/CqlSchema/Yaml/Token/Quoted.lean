import CqlSchema.Yaml.Scalar
import CqlSchema.Yaml.Token.Folding
/-!
# Quoted scalars

In single quotes a quote is written twice and nothing else is special. In double quotes a
backslash starts an escape: one letter, a character code of two, four or eight hexadecimal
digits, or a line break that is left out. Gaps are folded in both. A marker of a document at the
start of a line is refused.
-/

namespace CqlSchema.Yaml

/-- Quotes around a scalar. -/
inductive Quote where
  | single
  | double
  deriving Repr, DecidableEq

namespace Quote

/-- Character that a quote is written as. -/
def char : Quote → Char
  | .single => '\x27'
  | .double => '\x22'

/-- Style of a scalar in these quotes. -/
def style : Quote → Style
  | .single => .singleQuoted
  | .double => .doubleQuoted

end Quote

/-- Characters that escapes of one letter stand for. -/
def letterEscapes : List (Char × Char) :=
  [('0', '\x00'), ('a', '\x07'), ('b', '\x08'), ('t', '\x09'), ('\t', '\x09'), ('n', '\x0a'),
    ('v', '\x0b'), ('f', '\x0c'), ('r', '\x0d'), ('e', '\x1b'), (' ', ' '), ('\x22', '\x22'),
    ('/', '/'), ('\\', '\\'), ('N', '\u0085'), ('_', '\u00a0'), ('L', '\u2028'),
    ('P', '\u2029')]

/-- Number of digits of a character code, by the letter in front of it. -/
def codeLength? (c : Char) : Option Nat :=
  if c = 'x' then some 2 else if c = 'u' then some 4 else if c = 'U' then some 8 else none

/-- Character with the code that hexadecimal digits write. -/
def charOfCode? (count : Nat) (digits : List Char) : Option Char := do
  if digits.length < count then failure
  let code ← ScalarValue.natOfDigits? 16 (digits.take count)
  if (0xd800 ≤ code ∧ code ≤ 0xdfff) ∨ 0x10ffff < code then failure
  return Char.ofNat code

/-- An escape after its backslash: the character it stands for, and how many characters it
takes. -/
def escape? : List Char → Option (Char × Nat)
  | [] => none
  | c :: rest =>
    match codeLength? c with
    | some count => (charOfCode? count rest).map (·, count + 1)
    | none => (letterEscapes.lookup c).map (·, 1)

/-- Reads the inside of a quoted scalar up to its closing quote. `text` holds the characters
read so far in reverse order, and `gap` the blanks and breaks after them. -/
def readQuoted (quote : Quote) (text : List Char) (gap : Gap) (cursor : Cursor) :
    Option (String × Cursor) :=
  match _shape : cursor.rest with
  | [] => none
  | c :: rest =>
    if cursor.atMarker then none
    else if isGap c then readQuoted quote text (gap.addBlank c) (cursor.drop 1)
    else if isBreak c then readQuoted quote text (gap.addBreak c) (cursor.drop 1)
    else
      let text := gap.folded ++ text
      if c = quote.char then
        if quote = .single ∧ rest.head? = some c then
          readQuoted quote (c :: text) .none (cursor.drop 2)
        else some (String.ofList text.reverse, cursor.drop 1)
      else if quote = .double ∧ c = '\\' then
        if rest.head?.any isBreak then readQuoted quote text .escaped (cursor.drop 2)
        else
          match escape? rest with
          | none => none
          | some (plain, count) => readQuoted quote (plain :: text) .none (cursor.drop (count + 1))
      else readQuoted quote (c :: text) .none (cursor.drop 1)
  termination_by cursor.rest.length
  decreasing_by
    all_goals simp only [Cursor.rest_drop, List.length_drop, _shape, List.length_cons]
    all_goals omega

end CqlSchema.Yaml
