import CqlSchema.Yaml.Token
import CqlSchema.Yaml.Token.Block
import CqlSchema.Yaml.Token.Tag
/-!
# Directives

A line that starts with a percent sign gives the version of YAML or the meaning of a tag
handle. No other directive is known.
-/

namespace CqlSchema.Yaml

/-- Number of at most nine digits. -/
def readVersionNumber (cursor : Cursor) : Option (Nat × Cursor) := do
  let digits := cursor.run Char.isDigit
  if 9 < digits.length then failure
  let value ← ScalarValue.natOfDigits? 10 digits
  return (value, cursor.drop digits.length)

/-- Version after the name of its directive. -/
def readVersion (cursor : Cursor) : Option (Token × Cursor) := do
  let (major, after) ← readVersionNumber (cursor.skip isGap)
  if !after.startsWith (· = '.') then failure
  let (minor, after) ← readVersionNumber (after.drop 1)
  return (.versionDirective major minor, after)

/-- Handle and its meaning after the name of their directive. -/
def readTagDirective (cursor : Cursor) : Option (Token × Cursor) := do
  let (handle, after) ← readHandle (cursor.skip isGap)
  if !(isNamedHandle handle || handle = ['!']) then failure
  if !after.startsWith isGap then failure
  let (bytes, after) ← readUri true [] (after.skip isGap)
  if bytes.isEmpty || !startsBlank after.rest then failure
  return (.tagDirective handle (upToZero bytes), after)

/-- Reads a directive from its percent sign to the end of its line. -/
def readDirective (cursor : Cursor) : Option (Token × Cursor) := do
  let inside := cursor.drop 1
  let name := inside.run isNameChar
  let after := inside.drop name.length
  if !startsBlank after.rest then failure
  let (token, after) ←
    if name = ['Y', 'A', 'M', 'L'] then readVersion after
    else if name = ['T', 'A', 'G'] then readTagDirective after
    else none
  let after ← finishLine after
  return (token, after)

end CqlSchema.Yaml
