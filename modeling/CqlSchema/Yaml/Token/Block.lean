import CqlSchema.Yaml.Scalar
import CqlSchema.Yaml.Cursor
/-!
# Block scalars

A block scalar follows a header of one line and consists of the lines that are indented at
least as far as its first one, or as far as the header says. In the folded style a line feed
between two lines that do not start with a blank becomes one blank. The header also says what
becomes of the breaks at the end.
-/

namespace CqlSchema.Yaml

/-- What becomes of the line breaks at the end of a block scalar. -/
inductive Chomping where
  | strip
  | clip
  | keep
  deriving Repr, DecidableEq

/-- Header of a block scalar. -/
structure BlockHeader where
  chomping : Chomping
  increment : Option Nat
  deriving Repr, DecidableEq

namespace BlockHeader

/-- Chomping that a character asks for. -/
def chomping? (c : Char) : Option Chomping :=
  if c = '+' then some .keep else if c = '-' then some .strip else none

/-- Increment that a digit asks for; a zero is refused. -/
def increment? (c : Char) : Option (Option Nat) :=
  if c = '0' then some none
  else if c.isDigit then some (some (c.toNat - '0'.toNat))
  else none

/-- Reads the indicators after the style: a chomping and an increment, in either order and both
optional. Returns how many characters they take. -/
def read? : List Char → Option (BlockHeader × Nat)
  | [] => some (⟨.clip, none⟩, 0)
  | c :: rest =>
    match chomping? c, increment? c with
    | some chomping, _ =>
      match rest.head?.bind increment? with
      | none => some (⟨chomping, none⟩, 1)
      | some none => none
      | some (some increment) => some (⟨chomping, some increment⟩, 2)
    | none, some none => none
    | none, some (some increment) =>
      match rest.head?.bind chomping? with
      | none => some (⟨.clip, some increment⟩, 1)
      | some chomping => some (⟨chomping, some increment⟩, 2)
    | none, none => some (⟨.clip, none⟩, 0)

end BlockHeader

/-- Moves over blanks and a comment to the end of the line, and over its break. Anything else on
the line is refused. -/
def finishLine (cursor : Cursor) : Option Cursor :=
  let after := cursor.skip isGap
  let after := if after.startsWith (· = '#') then after.skip (!isBreak ·) else after
  if after.atEnd then some after
  else if after.startsWith isBreak then some (after.drop 1)
  else none

/-- Moves over indentation and empty lines. `indent` is the indentation, if it is known; the
answer holds the deepest column seen, the breaks in reverse order, and what follows. A tab
instead of indentation is refused. -/
def readBreaks (indent : Option Nat) (deepest : Nat) (breaks : List Char) (cursor : Cursor) :
    Option (Nat × List Char × Cursor) :=
  let deepest := max deepest cursor.column
  match _shape : cursor.rest with
  | [] => some (deepest, breaks, cursor)
  | c :: _ =>
    let shallow := indent.all (cursor.column < ·)
    if shallow && c = ' ' then readBreaks indent deepest breaks (cursor.drop 1)
    else if shallow && c = '\t' then none
    else if isBreak c then readBreaks indent deepest (c :: breaks) (cursor.drop 1)
    else some (deepest, breaks, cursor)
  termination_by cursor.rest.length
  decreasing_by
    all_goals simp only [Cursor.rest_drop, List.length_drop, _shape, List.length_cons]
    all_goals omega

/-- Lines of a block scalar that have been read. All lists are in reverse order: the text up to
the last line, the break after it, and the breaks of the empty lines below. -/
structure BlockText where
  text : List Char
  lineBreak : List Char
  breaks : List Char
  startedBlank : Bool
  deriving Repr, DecidableEq

namespace BlockText

/-- Text before any line has been read, with the breaks of leading empty lines. -/
def start (breaks : List Char) : BlockText := ⟨[], [], breaks, false⟩

/-- Adds a line. In the folded style the line feed before it may become one blank or
vanish. -/
def addLine (folded : Bool) (block : BlockText) (line : List Char) (lineBreak : List Char)
    (breaks : List Char) : BlockText :=
  let startsBlank := line.head?.any isGap
  let folds := folded && block.lineBreak = ['\n'] && !block.startedBlank && !startsBlank
  let joint :=
    if folds then (if block.breaks.isEmpty then [' '] else block.breaks)
    else block.breaks ++ block.lineBreak
  ⟨line.reverse ++ joint ++ block.text, lineBreak, breaks, startsBlank⟩

/-- Text with the breaks at its end chomped. -/
def finish (chomping : Chomping) (block : BlockText) : String :=
  let chars := match chomping with
    | .strip => block.text
    | .clip => block.lineBreak ++ block.text
    | .keep => block.breaks ++ block.lineBreak ++ block.text
  String.ofList chars.reverse

end BlockText

/-- Reads the lines of a block scalar that start at the given column. -/
def readLines (folded : Bool) (indent : Nat) (block : BlockText) (cursor : Cursor) :
    Option (BlockText × Cursor) :=
  if cursor.column = indent && !cursor.atEnd then
    let line := cursor.run (!isBreak ·)
    let after := cursor.drop line.length
    let lineBreak := after.rest.take 1
    match readBreaks (some indent) 0 [] (after.drop 1) with
    | none => none
    | some (_, breaks, next) =>
      if next.rest.length < cursor.rest.length then
        readLines folded indent (block.addLine folded line lineBreak breaks) next
      else none
  else some (block, cursor)
  termination_by cursor.rest.length

/-- Reads a block scalar after its style indicator; `parent` is the column of the collection
around it. -/
def readBlock (folded : Bool) (parent : Option Nat) (cursor : Cursor) :
    Option (String × Cursor) := do
  let (header, count) ← BlockHeader.read? cursor.rest
  let first ← finishLine (cursor.drop count)
  let known := header.increment.map (parent.getD 0 + ·)
  let (deepest, breaks, next) ← readBreaks known 0 [] first
  let least := parent.elim 1 (· + 1)
  let indent := known.getD (max deepest least)
  let (block, after) ← readLines folded indent (.start breaks) next
  return (block.finish header.chomping, after)

end CqlSchema.Yaml
