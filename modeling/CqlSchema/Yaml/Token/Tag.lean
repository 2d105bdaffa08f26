import CqlSchema.Yaml.Cursor
import CqlSchema.Yaml.Scalar
/-!
# Names and tags

Anchors and aliases have names of letters, digits, underscores and hyphens. A tag is a handle
between exclamation marks and a suffix, or a suffix alone; the suffix consists of the characters
of a URI, with bytes escaped by percent signs. Escaped bytes must form characters.
-/

namespace CqlSchema.Yaml

/-- Characters of a tag suffix, next to letters, digits, underscores and hyphens. -/
def isUriMark (c : Char) : Bool :=
  [';', '/', '?', ':', '@', '&', '=', '+', '$', '.', '!', '~', '*', '\x27', '(', ')'].contains c

/-- Characters of a tag suffix; inside angle brackets and in directives some flow marks are
allowed too. -/
def isUriChar (verbatim : Bool) (c : Char) : Bool :=
  isNameChar c || isUriMark c || verbatim && (c = ',' || c = '[' || c = ']')

/-- Byte that a percent sign and two hexadecimal digits write. -/
def escapedByte? : List Char → Option Nat
  | '%' :: a :: b :: _ => do
    let high ← ScalarValue.digit? 16 a
    let low ← ScalarValue.digit? 16 b
    return high * 16 + low
  | _ => none

/-- Number of bytes of a character, by its first byte. -/
def byteCount? (first : Nat) : Option Nat :=
  if first < 0x80 then some 1
  else if 0xc0 ≤ first ∧ first < 0xe0 then some 2
  else if 0xe0 ≤ first ∧ first < 0xf0 then some 3
  else if 0xf0 ≤ first ∧ first < 0xf8 then some 4
  else none

/-- Bytes after the first one of an escaped character. -/
def trailingBytes? (text : List Char) : Nat → Option (List UInt8)
  | 0 => some []
  | count + 1 => do
    let byte ← escapedByte? text
    if byte < 0x80 ∨ 0xc0 ≤ byte then failure
    let others ← trailingBytes? (text.drop 3) count
    return byte.toUInt8 :: others

/-- Bytes of one escaped character. -/
def escapedChar? (text : List Char) : Option (List UInt8) := do
  let first ← escapedByte? text
  let count ← byteCount? first
  let others ← trailingBytes? (text.drop 3) (count - 1)
  return first.toUInt8 :: others

/-- Reads the characters of a tag suffix as bytes. -/
def readUri (verbatim : Bool) (bytes : List UInt8) (cursor : Cursor) :
    Option (List UInt8 × Cursor) :=
  match _shape : cursor.rest with
  | [] => some (bytes, cursor)
  | c :: _ =>
    if c = '%' then
      match escapedChar? cursor.rest with
      | none => none
      | some [] => none
      | some (byte :: others) =>
        readUri verbatim (bytes ++ byte :: others) (cursor.drop (3 * (others.length + 1)))
    else if isUriChar verbatim c then
      readUri verbatim (bytes ++ c.toString.toUTF8.toList) (cursor.drop 1)
    else some (bytes, cursor)
  termination_by cursor.rest.length
  decreasing_by
    all_goals simp only [Cursor.rest_drop, List.length_drop, _shape, List.length_cons]
    all_goals omega

/-- A suffix ends at its first zero byte. -/
def upToZero (bytes : List UInt8) : List UInt8 :=
  bytes.takeWhile (· != 0)

/-- Reads the name of an anchor or alias after its indicator. A blank or one of a few marks has
to follow. -/
def readName (cursor : Cursor) : Option (String × Cursor) :=
  let name := cursor.run isNameChar
  let after := cursor.drop name.length
  let closed := startsBlank after.rest ||
    after.startsWith fun c => ['?', ':', ',', ']', '}', '%', '@', '\x60'].contains c
  if !name.isEmpty && closed then some (String.ofList name, after) else none

/-- Reads an exclamation mark and the name characters after it, and the exclamation mark that
makes them a handle, if there is one. -/
def readHandle (cursor : Cursor) : Option (List Char × Cursor) :=
  if cursor.startsWith (· = '!') then
    let inside := cursor.drop 1
    let name := inside.run isNameChar
    let after := inside.drop name.length
    if after.startsWith (· = '!') then some ('!' :: name ++ ['!'], after.drop 1)
    else some ('!' :: name, after)
  else none

/-- Decides whether what `readHandle` read is a handle between two exclamation marks. -/
def isNamedHandle (handle : List Char) : Bool :=
  2 ≤ handle.length && handle.getLast? = some '!'

/-- A handle and a suffix; an empty handle marks a suffix that is the whole tag. -/
abbrev TagParts := List Char × List UInt8

/-- Reads a tag after nothing but its indicator has been seen. -/
def readTag (inFlow : Bool) (cursor : Cursor) : Option (TagParts × Cursor) := do
  let (parts, after) ← parts
  if startsBlank after.rest || inFlow && after.startsWith (· = ',') then return (parts, after)
  else failure
where
  /-- The tag itself, without a look at what follows it. -/
  parts : Option (TagParts × Cursor) :=
    if cursor.rest[1]? = some '<' then do
      let (bytes, after) ← readUri true [] (cursor.drop 2)
      if bytes.isEmpty || !after.startsWith (· = '>') then failure
      return (([], upToZero bytes), after.drop 1)
    else do
      let (handle, after) ← readHandle cursor
      if isNamedHandle handle then
        let (bytes, next) ← readUri false [] after
        if bytes.isEmpty then failure
        return ((handle, upToZero bytes), next)
      else
        let (bytes, next) ← readUri false ((String.ofList (handle.drop 1)).toUTF8.toList) after
        let suffix := upToZero bytes
        if suffix.isEmpty then return (([], [33]), next)
        return ((['!'], suffix), next)

end CqlSchema.Yaml
