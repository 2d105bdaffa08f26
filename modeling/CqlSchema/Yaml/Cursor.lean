/-!
# Positions in a YAML text

A cursor is what is left of a text together with the line and the column that it starts at. All
line breaks but the two Unicode separators are read as one line feed, so the text is rewritten
to line feeds before a cursor is placed on it.
-/

namespace CqlSchema.Yaml

/-- Line breaks of a text whose line feeds have been unified. -/
def isBreak (c : Char) : Bool :=
  c = '\n' || c = '\u2028' || c = '\u2029'

/-- Blanks inside a line. -/
def isGap (c : Char) : Bool :=
  c = ' ' || c = '\t'

/-- Letters, digits, the underscore and the hyphen. -/
def isNameChar (c : Char) : Bool :=
  c.isAlphanum || c = '_' || c = '-'

/-- Characters that a YAML text may contain. -/
def isPrintable (c : Char) : Bool :=
  c = '\t' || c = '\n' || c = '\r' || (' ' ≤ c && c ≤ '~') || c = '\u0085' ||
  ('\u00a0' ≤ c && c ≤ '\ufffd') || 0x10000 ≤ c.toNat

/-- Byte order mark. -/
def byteOrderMark : Char := '\ufeff'

/-- Rewrites carriage returns, with or without a line feed, and next-line characters to line
feeds. -/
def unifyBreaks : List Char → List Char
  | [] => []
  | '\r' :: '\n' :: rest => '\n' :: unifyBreaks rest
  | c :: rest => (if c = '\r' ∨ c = '\u0085' then '\n' else c) :: unifyBreaks rest

/-- What is left of a text, and where it starts. -/
structure Cursor where
  rest : List Char
  line : Nat
  column : Nat
  deriving Repr, DecidableEq

namespace Cursor

/-- Cursor at the start of a text. -/
def start (text : List Char) : Cursor := ⟨text, 0, 0⟩

/-- Moves over one character; a line break leads to the start of the next line. -/
def advance (cursor : Cursor) : Cursor :=
  match cursor.rest with
  | [] => cursor
  | c :: rest =>
    if isBreak c then ⟨rest, cursor.line + 1, 0⟩ else ⟨rest, cursor.line, cursor.column + 1⟩

/-- Moves over several characters. -/
def drop (cursor : Cursor) : Nat → Cursor
  | 0 => cursor
  | count + 1 => cursor.advance.drop count

@[simp] theorem rest_advance (cursor : Cursor) : cursor.advance.rest = cursor.rest.drop 1 := by
  unfold advance
  split
  · simp_all
  · rename_i shape
    rw [shape]
    split <;> rfl

@[simp] theorem rest_drop (cursor : Cursor) (count : Nat) :
    (cursor.drop count).rest = cursor.rest.drop count := by
  induction count generalizing cursor with
  | zero => rfl
  | succ count ih => rw [drop, ih, rest_advance, List.drop_drop, Nat.add_comm]

/-- Characters in front of the first one that fails the test. -/
def run (keep : Char → Bool) (cursor : Cursor) : List Char :=
  cursor.rest.takeWhile keep

/-- Moves to the first character that fails the test. -/
def skip (keep : Char → Bool) (cursor : Cursor) : Cursor :=
  cursor.drop (cursor.run keep).length

/-- Decides whether the next character passes the test; there is none at the end. -/
def startsWith (test : Char → Bool) (cursor : Cursor) : Bool :=
  cursor.rest.head?.any test

/-- Decides whether the text ends here. -/
def atEnd (cursor : Cursor) : Bool :=
  cursor.rest.isEmpty

end Cursor

/-- Decides whether a text starts with a blank or a line break, or is empty. -/
def startsBlank : List Char → Bool
  | [] => true
  | c :: _ => isGap c || isBreak c

/-- Decides whether a text starts with a marker that begins or ends a document. -/
def startsMarker : List Char → Bool
  | a :: b :: c :: rest => (a = '-' || a = '.') && b = a && c = a && startsBlank rest
  | _ => false

/-- Decides whether a marker stands here, at the start of a line. -/
def Cursor.atMarker (cursor : Cursor) : Bool :=
  cursor.column = 0 && startsMarker cursor.rest

end CqlSchema.Yaml
