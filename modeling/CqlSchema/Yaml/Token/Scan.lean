import CqlSchema.Yaml.Token.Directive
import CqlSchema.Yaml.Token.Plain
import CqlSchema.Yaml.Token.Quoted
/-!
# Cutting a text into tokens

The layout of a text is followed with a stack of the columns of open block collections. A node
that could be a key is remembered until a colon decides: then a key mark, and perhaps the start
of a mapping, is put in front of it. Such a key has to stand on one line with its colon and
within 1024 characters. Inside brackets the layout is free, and each bracket remembers a key of
its own.
-/

namespace CqlSchema.Yaml

/-- A node that a colon may turn into a key: the number of tokens in front of it, and its place.
It is required when it starts at the column of the collection around it. -/
structure PendingKey where
  position : Nat
  line : Nat
  column : Nat
  required : Bool
  deriving Repr, DecidableEq

/-- State of a scan. The innermost pending key is `key`, and `outer` holds those outside the open
brackets. -/
structure Scan where
  cursor : Cursor
  tokens : Array Token
  indents : List Nat
  key : Option PendingKey
  outer : List (Option PendingKey)
  keyAllowed : Bool

namespace Scan

/-- State before anything has been read. -/
def start (text : List Char) : Scan :=
  ⟨.start text, #[], [], none, [], true⟩

/-- Decides whether the scan is inside brackets. -/
def inFlow (scan : Scan) : Bool :=
  !scan.outer.isEmpty

/-- Adds a token at the end. -/
def emit (scan : Scan) (token : Token) : Scan :=
  { scan with tokens := scan.tokens.push token }

/-- Puts a token in front of the one with the given number. -/
def insert (scan : Scan) (position : Nat) (token : Token) : Scan :=
  { scan with tokens := scan.tokens.insertIdxIfInBounds position token }

/-- Sets whether a key may start at the next token. -/
def allowKey (scan : Scan) (allowed : Bool) : Scan :=
  { scan with keyAllowed := allowed }

/-- Moves over some characters. -/
def drop (scan : Scan) (count : Nat) : Scan :=
  { scan with cursor := scan.cursor.drop count }

/-- Forgets the innermost pending key; a required one may not be forgotten. -/
def forgetKey (scan : Scan) : Option Scan :=
  if scan.key.any PendingKey.required then none else some { scan with key := none }

/-- Remembers the node that starts here as a pending key, where keys are allowed. -/
def rememberKey (scan : Scan) : Option Scan :=
  if scan.keyAllowed then do
    let required := !scan.inFlow && scan.indents.head? = some scan.cursor.column
    let cleared ← scan.forgetKey
    return { cleared with
      key := some ⟨scan.tokens.size, scan.cursor.line, scan.cursor.column, required⟩ }
  else some scan

/-- Decides whether a pending key is too far away for a colon at the cursor. -/
def PendingKey.isStale (cursor : Cursor) (key : PendingKey) : Bool :=
  key.line < cursor.line || key.column + 1024 < cursor.column

/-- Forgets a pending key that is too far away; a required one may not be forgotten. -/
def dropStale (cursor : Cursor) : Option PendingKey → Option (Option PendingKey)
  | none => some none
  | some key =>
    if PendingKey.isStale cursor key then (if key.required then none else some none)
    else some (some key)

/-- Forgets all pending keys that are too far away. -/
def dropStaleKeys (scan : Scan) : Option Scan := do
  let key ← dropStale scan.cursor scan.key
  let outer ← scan.outer.mapM (dropStale scan.cursor)
  return { scan with key, outer }

/-- Ends the block collections that are indented deeper than the given column, or all of them. -/
def closeBlocks (column : Option Nat) (scan : Scan) : Scan :=
  if scan.inFlow then scan
  else
    let isDeeper (indent : Nat) : Bool := column.all (· < indent)
    let closed := scan.indents.takeWhile isDeeper
    { scan with
      indents := scan.indents.dropWhile isDeeper
      tokens := scan.tokens ++ (closed.map fun _ => Token.blockEnd).toArray }

/-- Starts a block collection at the given column, unless one is open there already. -/
def openBlock (column position : Nat) (token : Token) (scan : Scan) : Scan :=
  if scan.inFlow then scan
  else if scan.indents.head?.all (· < column) then
    { scan.insert position token with indents := column :: scan.indents }
  else scan

/-- Moves over blanks, comments and line breaks to the next token. In block context a line break
allows a key, and tabs count as blanks only where no key is allowed. -/
def skipSpace (inFlow keyAllowed : Bool) (cursor : Cursor) : Bool × Cursor :=
  match _shape : cursor.rest with
  | [] => (keyAllowed, cursor)
  | c :: _ =>
    if cursor.column = 0 ∧ c = byteOrderMark then
      skipSpace inFlow keyAllowed (cursor.drop 1)
    else if c = ' ' ∨ c = '\t' ∧ (inFlow ∨ !keyAllowed) then
      skipSpace inFlow keyAllowed (cursor.drop 1)
    else if isBreak c then skipSpace inFlow (!inFlow || keyAllowed) (cursor.drop 1)
    else if c = '#' then skipComment inFlow keyAllowed (cursor.drop 1)
    else (keyAllowed, cursor)
  termination_by cursor.rest.length
  decreasing_by
    all_goals simp only [Cursor.rest_drop, List.length_drop, _shape, List.length_cons]
    all_goals omega
where
  /-- Moves over a comment and goes on after it. -/
  skipComment (inFlow keyAllowed : Bool) (cursor : Cursor) : Bool × Cursor :=
    match _shape : cursor.rest with
    | [] => (keyAllowed, cursor)
    | c :: _ =>
      if isBreak c then skipSpace inFlow (!inFlow || keyAllowed) (cursor.drop 1)
      else skipComment inFlow keyAllowed (cursor.drop 1)
  termination_by cursor.rest.length
  decreasing_by
    all_goals simp only [Cursor.rest_drop, List.length_drop, _shape, List.length_cons]
    all_goals omega

/-- Moves to the next token, forgets the keys that are too far away there, and ends the block
collections that it is not part of. -/
def approach (scan : Scan) : Option Scan := do
  let (keyAllowed, cursor) := skipSpace scan.inFlow scan.keyAllowed scan.cursor
  let scan ← ({ scan with keyAllowed, cursor } : Scan).dropStaleKeys
  return scan.closeBlocks (some scan.cursor.column)

/-- Ends the block context: a directive or a marker of a document follows. -/
def endBlocks (scan : Scan) : Option Scan := do
  let scan ← (scan.closeBlocks none).forgetKey
  return scan.allowKey false

/-- Reads a directive. -/
def directive (scan : Scan) : Option Scan := do
  let scan ← scan.endBlocks
  let (token, cursor) ← readDirective scan.cursor
  return { scan.emit token with cursor }

/-- Reads a marker of a document. -/
def marker (token : Token) (scan : Scan) : Option Scan := do
  let scan ← scan.endBlocks
  return (scan.emit token).drop 3

/-- Opens a bracket, which may itself be a key. -/
def openFlow (token : Token) (scan : Scan) : Option Scan := do
  let scan ← scan.rememberKey
  let inside : Scan := { scan with outer := scan.key :: scan.outer, key := none }
  return ((inside.allowKey true).emit token).drop 1

/-- Closes a bracket. -/
def closeFlow (token : Token) (scan : Scan) : Option Scan := do
  let scan ← scan.forgetKey
  let outside : Scan := match scan.outer with
    | [] => scan
    | key :: outer => { scan with key, outer }
  return ((outside.allowKey false).emit token).drop 1

/-- Reads a comma between brackets. -/
def flowEntry (scan : Scan) : Option Scan := do
  let scan ← scan.forgetKey
  return ((scan.allowKey true).emit .flowEntry).drop 1

/-- Reads the hyphen of a block sequence. -/
def blockEntry (scan : Scan) : Option Scan := do
  if !scan.inFlow && !scan.keyAllowed then failure
  let scan := scan.openBlock scan.cursor.column scan.tokens.size .blockSequenceStart
  let scan ← scan.forgetKey
  return ((scan.allowKey true).emit .blockEntry).drop 1

/-- Reads the question mark of an explicit key. -/
def explicitKey (scan : Scan) : Option Scan := do
  if !scan.inFlow && !scan.keyAllowed then failure
  let scan := scan.openBlock scan.cursor.column scan.tokens.size .blockMappingStart
  let scan ← scan.forgetKey
  return ((scan.allowKey !scan.inFlow).emit .key).drop 1

/-- Reads a colon, which turns a pending key into a key. -/
def value (scan : Scan) : Option Scan :=
  match scan.key with
  | some key =>
    let scan := scan.insert key.position .key
    let scan := scan.openBlock key.column key.position .blockMappingStart
    some ((({ scan with key := none }.allowKey false).emit .value).drop 1)
  | none =>
    if !scan.inFlow && !scan.keyAllowed then none
    else
      let scan := scan.openBlock scan.cursor.column scan.tokens.size .blockMappingStart
      some (((scan.allowKey !scan.inFlow).emit .value).drop 1)

/-- Reads a name after its indicator; what it names may be part of a key. -/
def named (token : String → Token) (scan : Scan) : Option Scan := do
  let scan ← scan.rememberKey
  let (name, cursor) ← readName (scan.cursor.drop 1)
  return { (scan.allowKey false).emit (token name) with cursor }

/-- Reads a tag, which may be part of a key. -/
def tag (scan : Scan) : Option Scan := do
  let scan ← scan.rememberKey
  let ((handle, suffix), cursor) ← readTag scan.inFlow scan.cursor
  return { (scan.allowKey false).emit (.tag handle suffix) with cursor }

/-- Reads a block scalar, which cannot be a key. -/
def block (folded : Bool) (scan : Scan) : Option Scan := do
  let scan ← scan.forgetKey
  let (text, cursor) ← readBlock folded scan.indents.head? (scan.cursor.drop 1)
  let style := if folded then Style.folded else .literal
  return { (scan.allowKey true).emit (.scalar style text) with cursor }

/-- Reads a quoted scalar, which may be a key. -/
def quoted (quote : Quote) (scan : Scan) : Option Scan := do
  let scan ← scan.rememberKey
  let (text, cursor) ← readQuoted quote [] .none (scan.cursor.drop 1)
  return { (scan.allowKey false).emit (.scalar quote.style text) with cursor }

/-- Reads a plain scalar, which may be a key. A key may follow it on a new line. -/
def plain (scan : Scan) : Option Scan := do
  let scan ← scan.rememberKey
  let (text, onNewLine, cursor) ←
    readPlain scan.inFlow (scan.indents.head?.elim 0 (· + 1)) [] .none scan.cursor
  return { (scan.allowKey onNewLine).emit (.scalar .plain text) with cursor }

/-- Characters that no plain scalar starts with, next to blanks. -/
def isIndicator (c : Char) : Bool :=
  ['-', '?', ':', ',', '[', ']', '{', '}', '#', '&', '*', '!', '|', '>', '\x27', '\x22', '%', '@',
    '\x60'].contains c

/-- Decides whether a plain scalar starts here. A hyphen may start one before anything but a
blank, and outside brackets so may a question mark or a colon. -/
def startsPlain (inFlow : Bool) (c : Char) (rest : List Char) : Bool :=
  !(isGap c || isBreak c || isIndicator c) ||
  c = '-' && !rest.head?.any isGap ||
  !inFlow && (c = '?' || c = ':') && !startsBlank rest

/-- Reads one token that starts with the given character. -/
def token (scan : Scan) (c : Char) (rest : List Char) : Option Scan :=
  if scan.cursor.column = 0 ∧ c = '%' then scan.directive
  else if scan.cursor.atMarker then
    scan.marker (if c = '-' then .documentStart else .documentEnd)
  else if c = '[' then scan.openFlow .flowSequenceStart
  else if c = '{' then scan.openFlow .flowMappingStart
  else if c = ']' then scan.closeFlow .flowSequenceEnd
  else if c = '}' then scan.closeFlow .flowMappingEnd
  else if c = ',' then scan.flowEntry
  else if c = '-' ∧ startsBlank rest then scan.blockEntry
  else if c = '?' ∧ (scan.inFlow ∨ startsBlank rest) then scan.explicitKey
  else if c = ':' ∧ (scan.inFlow ∨ startsBlank rest) then scan.value
  else if c = '*' then scan.named .alias
  else if c = '&' then scan.named .anchor
  else if c = '!' then scan.tag
  else if c = '|' ∧ !scan.inFlow then scan.block false
  else if c = '>' ∧ !scan.inFlow then scan.block true
  else if c = '\x27' then scan.quoted .single
  else if c = '\x22' then scan.quoted .double
  else if startsPlain scan.inFlow c rest then scan.plain
  else none

/-- Ends the text: all block collections end, and no required key may be pending. -/
def finish (scan : Scan) : Option (List Token) := do
  let scan ← (scan.closeBlocks none).forgetKey
  return scan.tokens.toList

/-- Reads tokens up to the end of the text. Every token takes at least one character. -/
def readAll (scan : Scan) : Option (List Token) :=
  match scan.approach with
  | none => none
  | some here =>
    match here.cursor.rest with
    | [] => here.finish
    | c :: rest =>
      match here.token c rest with
      | none => none
      | some next =>
        if next.cursor.rest.length < scan.cursor.rest.length then next.readAll else none
  termination_by scan.cursor.rest.length

end Scan

/-- Characters of a text after an optional byte order mark, with unified line breaks; none where
a text contains a character that YAML excludes. -/
def prepare (text : String) : Option (List Char) :=
  let chars := match text.toList with
    | c :: rest => if c = byteOrderMark then rest else c :: rest
    | [] => []
  if chars.all isPrintable then some (unifyBreaks chars) else none

/-- Tokens of a text. -/
def Token.ofText? (text : String) : Option (List Token) := do
  let chars ← prepare text
  (Scan.start chars).readAll

end CqlSchema.Yaml
