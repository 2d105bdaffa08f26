import CqlSchema.Shell.Arithmetic
import CqlSchema.Shell.Lexer
import CqlSchema.Shell.Machine
import CqlSchema.Shell.Pattern
/-!
# Expansion

A word expands to fields. What unquoted pieces expand to is split at blanks; what quoted pieces
expand to stays together, and the quoted list of all arguments gives one field for each of them.
-/

namespace CqlSchema.Shell

/-- Parts of an expanded word: characters, places where fields are split, and marks that keep an
empty field. -/
inductive Atom where
  | character (quoted : Bool) (c : Char)
  | gap
  | next
  | mark
  deriving Repr, DecidableEq

namespace Atom

/-- Parts of an expanded text. -/
def ofText (quoted : Bool) (text : String) : List Atom :=
  if quoted then text.toList.map (.character true)
  else text.toList.map fun c =>
    if c = ' ' ∨ c = '\t' ∨ c = '\n' then .gap else .character false c

/-- Fields of an expanded word; `field` is the field that is being read, if there is one. -/
def fields (field : Option (List Char)) : List Atom → List (List Char)
  | [] => field.toList
  | .character _ c :: rest => fields (some (field.getD [] ++ [c])) rest
  | .mark :: rest => fields (some (field.getD [])) rest
  | .next :: rest => field.getD [] :: fields (some []) rest
  | .gap :: rest => field.toList ++ fields none rest

/-- Characters of an expanded word that is not split, with their quotes. -/
def unsplit : List Atom → List (Bool × Char)
  | [] => []
  | .character quoted c :: rest => (quoted, c) :: unsplit rest
  | .gap :: rest => (false, ' ') :: unsplit rest
  | .next :: rest => (true, ' ') :: unsplit rest
  | .mark :: rest => unsplit rest

end Atom

variable {m : Type → Type} [Monad m]

/-- Parts that all arguments expand to in quotes: one field each. -/
def quotedArguments (arguments : List String) : List Atom :=
  (arguments.map fun argument => Atom.mark :: Atom.ofText true argument).intersperse [Atom.next]
    |>.flatten

/-- Value of a parameter; an unset parameter is empty. -/
def parameter (name : String) : Run m String := do
  return ((← get).parameter? name).getD ""

/-- Text without the line breaks at its end. -/
def withoutFinalBreaks (text : String) : String :=
  String.ofList (text.toList.reverse.dropWhile (· = '\n')).reverse

/-- Parts that a piece expands to; `substitute` runs the script of a substitution. -/
def expandPiece (substitute : List Char → Run m ByteArray) : Piece → Run m (List Atom)
  | .text quoted value =>
    return if quoted && value.isEmpty then [.mark] else value.map (.character quoted)
  | .parameter true "@" => return quotedArguments (← get).arguments
  | .parameter quoted name => return Atom.ofText quoted (← parameter name)
  | .fallback quoted name default => do
    let value ← parameter name
    let plain := String.ofList (default.toList.filter (· ≠ '\x22'))
    return Atom.ofText quoted (if value.isEmpty then plain else value)
  | .output quoted script => do
    let written ← substitute script
    let text := String.fromUTF8? written |>.getD (String.ofList (written.toList.map fun byte =>
      Char.ofNat byte.toNat))
    return Atom.ofText quoted (withoutFinalBreaks text)
  | .arithmetic quoted expression => do
    let machine ← get
    let lookup (name : String) : String := (machine.parameter? name).getD "0"
    return Atom.ofText quoted ((Arithmetic.evaluate? lookup expression).getD "0")

/-- Parts that a word expands to. The quoted list of no arguments leaves nothing. -/
def expandWord (substitute : List Char → Run m ByteArray) (word : Word) : Run m (List Atom) := do
  let parts ← word.mapM (expandPiece substitute)
  let isList := word.contains (.parameter true "@") && (← get).arguments.isEmpty
  return if isList then parts.flatten.filter (· ≠ .mark) else parts.flatten

/-- Fields that words expand to. -/
def expandFields (substitute : List Char → Run m ByteArray) (words : List Word) :
    Run m (List String) := do
  let parts ← words.mapM (expandWord substitute)
  return parts.flatMap fun atoms => (Atom.fields none atoms).map String.ofList

/-- Text that a word expands to where it is not split. -/
def expandText (substitute : List Char → Run m ByteArray) (word : Word) : Run m String := do
  return String.ofList ((Atom.unsplit (← expandWord substitute word)).map Prod.snd)

/-- Pattern that a word expands to. -/
def expandPattern (substitute : List Char → Run m ByteArray) (word : Word) :
    Run m (List Pattern) := do
  let characters := Atom.unsplit (← expandWord substitute word)
  return Pattern.ofMarked characters.length characters

end CqlSchema.Shell
