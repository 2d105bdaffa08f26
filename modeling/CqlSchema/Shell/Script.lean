/-!
# Shell scripts

The structure of a shell script: commands made of words, and words made of pieces. A piece knows
whether it was quoted, since what an unquoted piece expands to is split into fields.
-/

namespace CqlSchema.Shell

/-- Pieces of a word, each with a flag that tells whether it was quoted. -/
inductive Piece where
  | text (quoted : Bool) (value : List Char)
  | parameter (quoted : Bool) (name : String)
  | fallback (quoted : Bool) (name : String) (default : String)
  | output (quoted : Bool) (script : List Char)
  | arithmetic (quoted : Bool) (expression : List Char)
  deriving Repr, DecidableEq

/-- Words, as their pieces. -/
abbrev Word := List Piece

/-- Text of a word without quotes and expansions. -/
def Word.plain? : Word → Option String
  | [] => some ""
  | .text false value :: rest => (Word.plain? rest).map (String.ofList value ++ ·)
  | _ => none

/-- Ways to redirect a stream. -/
inductive Redirection where
  | read
  | write
  | append
  | duplicate
  | here
  deriving Repr, DecidableEq

/-- A redirected stream: its line, its number, the way, and where it leads. -/
structure Redirect where
  line : Nat
  stream : Nat
  way : Redirection
  target : Word
  deriving Repr, DecidableEq

/-- Commands of a script. -/
inductive Command where
  | simple (line : Nat) (assignments : List (String × Word)) (words : List Word)
  | redirected (redirects : List Redirect) (body : Command)
  | sequence (commands : List Command)
  | pipeline (commands : List Command)
  | negated (body : Command)
  | both (first second : Command)
  | either (first second : Command)
  | subshell (body : Command)
  | branch (condition consequence alternative : Command)
  | forEach (name : String) (words : List Word) (body : Command)
  | caseOf (subject : Word) (arms : List (List Word × Command))
  | repeated (isUntil : Bool) (condition body : Command)

/-- Command that does nothing. -/
def Command.nothing : Command := .sequence []

end CqlSchema.Shell
