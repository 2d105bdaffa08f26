import CqlSchema.Yaml.Cursor
/-!
# Gaps between words

Inside a quoted or plain scalar a run of blanks and line breaks is a gap. Blanks within one line
are kept. A gap with line breaks drops its blanks and folds: a single line feed becomes one
blank, and of several line breaks all but the first remain. A gap that starts with a Unicode
separator keeps all its breaks, and an escaped line break does not count.
-/

namespace CqlSchema.Yaml

/-- A gap that has been read so far. The lists are in reverse order. -/
structure Gap where
  folds : Bool
  blanks : List Char
  first : Option Char
  later : List Char
  deriving Repr, DecidableEq

namespace Gap

/-- Gap without any characters. -/
def none : Gap := ⟨false, [], .none, []⟩

/-- Gap after an escaped line break. -/
def escaped : Gap := ⟨true, [], .none, []⟩

/-- Recognises a gap without any characters. -/
def isNone (gap : Gap) : Bool :=
  !gap.folds && gap.blanks.isEmpty

/-- Adds a blank; blanks after a line break are dropped. -/
def addBlank (gap : Gap) (c : Char) : Gap :=
  if gap.folds then gap else { gap with blanks := c :: gap.blanks }

/-- Adds a line break; the first one drops the blanks before it. -/
def addBreak (gap : Gap) (c : Char) : Gap :=
  if gap.folds then { gap with later := c :: gap.later } else ⟨true, [], some c, []⟩

/-- Characters that a gap contributes to the text, in reverse order. -/
def folded (gap : Gap) : List Char :=
  if gap.folds then
    match gap.first with
    | some '\n' => if gap.later.isEmpty then [' '] else gap.later
    | some c => gap.later ++ [c]
    | .none => gap.later
  else gap.blanks

end Gap

end CqlSchema.Yaml
