import CqlSchema.Host
import CqlSchema.Text.Blank
/-!
# Variables in a file

A file may define environment variables, one a line, with quotes, escapes, comments and
references to other variables. A definition may go on over several lines inside quotes. A
variable of the environment counts before a definition; the first line that is not understood
ends the file, and what was defined before it stays.
-/

namespace CqlSchema.Settings.Variables

/-! ## Lines -/

/-- States between the characters of a line. -/
inductive State where
  | complete
  | blank
  | escaped
  | single
  | singleEscaped
  | double
  | doubleEscaped
  | comment
  deriving Repr, DecidableEq

/-- State after one more character. -/
def State.step (c : Char) : State → State
  | .complete =>
    if c = '\\' then .escaped
    else if c = '\x22' then .double
    else if c = '\x27' then .single
    else if Text.isBlank c && c ≠ '\n' && c ≠ '\r' then .blank
    else .complete
  | .blank =>
    if c = '#' then .comment
    else if c = '\\' then .escaped
    else if c = '\x22' then .double
    else if c = '\x27' then .single
    else .complete
  | .escaped => .complete
  | .single => if c = '\\' then .singleEscaped else if c = '\x27' then .complete else .single
  | .singleEscaped => .single
  | .double => if c = '\\' then .doubleEscaped else if c = '\x22' then .complete else .double
  | .doubleEscaped => .double
  | .comment => .comment

/-- Runs over a line; a comment ends it. Returns the state and the line without the comment. -/
def scanLine (state : State) : List Char → State × List Char
  | [] => (state, [])
  | c :: rest =>
    match state.step c with
    | .comment => (.comment, [])
    | following =>
      let (last, kept) := scanLine following rest
      (last, c :: kept)

/-- Lines of a text, each with its line break. -/
def physicalLines (text : List Char) : List (List Char) :=
  text.foldr (fun c lines =>
    match c, lines with
    | '\n', lines => ['\n'] :: lines
    | c, [] => [[c]]
    | c, line :: lines => (c :: line) :: lines) []

/-- Drops the line break at the end of a line. -/
def dropBreak (line : List Char) : List Char :=
  match line.reverse with
  | '\n' :: '\r' :: rest => rest.reverse
  | '\n' :: rest => rest.reverse
  | _ => line

/-- Joins lines that belong together. What is still open at the end of the text is dropped. -/
def logicalLines (state : State) (pending : List Char) : List (List Char) → List (List Char)
  | [] => []
  | line :: rest =>
    if (Text.trimLeft (pending ++ line)).head? = some '#' then [] :: logicalLines .complete [] rest
    else
      match scanLine state line with
      | (.complete, kept) => dropBreak (pending ++ kept) :: logicalLines .complete [] rest
      | (.comment, kept) => (pending ++ kept) :: logicalLines .complete [] rest
      | (following, _) => logicalLines following (pending ++ line) rest

/-! ## Values -/

/-- References to other variables: none, a name, or a name in braces. -/
inductive Reference where
  | none
  | bare (name : List Char)
  | braced (name : List Char)
  deriving Repr, DecidableEq

/-- What is known while the characters of a value are read. -/
structure Reading where
  output : List Char
  isSingle : Bool
  isDouble : Bool
  isEscaped : Bool
  isEnding : Bool
  reference : Reference

/-- State before the first character of a value. -/
def Reading.start : Reading := ⟨[], false, false, false, false, .none⟩

/-- Adds characters to the value. -/
def Reading.push (reading : Reading) (text : List Char) : Reading :=
  { reading with output := reading.output ++ text }

/-- Adds the value of a referenced variable and ends the reference. -/
def Reading.resolve (lookup : String → String) (reading : Reading) (name : List Char) : Reading :=
  { reading.push (lookup (String.ofList name)).toList with reference := .none }

/-- Character that an escape stands for. -/
def escapedChar? (c : Char) : Option Char :=
  if ['\\', '\x27', '\x22', '$', ' '].contains c then some c
  else if c = 'n' then some '\n'
  else none

/-- State after a character that no reference takes. -/
def Reading.plain (reading : Reading) (c : Char) : Reading :=
  if c = '$' then { reading with reference := .bare [] }
  else if reading.isDouble then
    if c = '\x22' then { reading with isDouble := false }
    else if c = '\\' then { reading with isEscaped := true }
    else reading.push [c]
  else if c = '\x27' then { reading with isSingle := true }
  else if c = '\x22' then { reading with isDouble := true }
  else if c = '\\' then { reading with isEscaped := true }
  else if c = ' ' ∨ c = '\t' then { reading with isEnding := true }
  else reading.push [c]

/-- State after a character inside a reference. -/
def Reading.refer (lookup : String → String) (reading : Reading) (c : Char) : Reading :=
  match reading.reference with
  | .none => reading.plain c
  | .braced name =>
    if c = '}' then reading.resolve lookup name
    else { reading with reference := .braced (name ++ [c]) }
  | .bare name =>
    if c.isAlphanum then { reading with reference := .bare (name ++ [c]) }
    else if c = '{' && name.isEmpty then { reading with reference := .braced [] }
    else
      let resolved := reading.resolve lookup name
      if c = '$' then { resolved with reference := .bare [] } else resolved.push [c]

/-- Reads the characters of a value. -/
def readValue (lookup : String → String) (reading : Reading) : List Char → Option String
  | [] =>
    if reading.isSingle || reading.isDouble then none
    else match reading.reference with
      | .none => some (String.ofList reading.output)
      | .bare name => some (String.ofList (reading.resolve lookup name).output)
      | .braced _ => none
  | c :: rest =>
    if reading.isEnding then
      if c = ' ' ∨ c = '\t' then readValue lookup reading rest
      else if c = '#' then readValue lookup reading []
      else none
    else if reading.isEscaped then
      match escapedChar? c with
      | some plain => readValue lookup { reading.push [plain] with isEscaped := false } rest
      | none => none
    else if reading.isSingle then
      if c = '\x27' then readValue lookup { reading with isSingle := false } rest
      else readValue lookup (reading.push [c]) rest
    else readValue lookup (reading.refer lookup c) rest

/-! ## Definitions -/

/-- Characters of a name behind the first one. -/
def isNameChar (c : Char) : Bool :=
  c.isAlphanum || c = '_' || c = '.'

/-- Reads a name, and the blanks behind it. -/
def readName (text : List Char) : Option (String × List Char) :=
  match text with
  | c :: _ =>
    if c.isAlpha || c = '_' then
      some (String.ofList (text.takeWhile isNameChar),
        Text.trimLeft (text.dropWhile isNameChar))
    else none
  | [] => none

/-- Reads a name and the equals sign behind it, with an optional word in front. -/
def readHead (text : List Char) : Option (String × List Char) := do
  let (name, after) ← readName text
  match after with
  | '=' :: rest => return (name, rest)
  | _ =>
    if name ≠ "export" then failure
    let (name, after) ← readName after
    match after with
    | '=' :: rest => return (name, rest)
    | _ => failure

/-- Definition in a line, if there is one; the line may also be no definition at all. -/
def readLine (lookup : String → String) (line : List Char) :
    Option (Option (String × String)) := do
  let text := Text.trim line
  if text.isEmpty || text.head? = some '#' then return none
  let (name, after) ← readHead text
  let value := Text.trimLeft after
  if value.isEmpty || value.head? = some '#' then return some (name, "")
  return some (name, ← readValue lookup .start value)

variable {m : Type → Type} [Monad m]

/-- Definitions so far, later ones first. -/
abbrev Definitions := List (String × String)

/-- Names in a line that a value may refer to. -/
def namesIn (line : List Char) : List String :=
  ((String.ofList line).splitOn "$").flatMap fun part =>
    let name := String.ofList (part.toList.takeWhile Char.isAlphanum)
    let braced := String.ofList ((part.toList.drop 1).takeWhile (· ≠ '}'))
    [name, braced]

/-- Reads definitions line by line. The environment counts before earlier definitions, and a
definition of a variable that is in the environment only counts for references. -/
def define (environment : String → m (Option String)) (added known : Definitions) :
    List (List Char) → m Definitions
  | [] => return added
  | line :: rest => do
    let values ← (namesIn line).mapM fun name => do
      return (name, ((← environment name).or (added.lookup name)).or (known.lookup name))
    let lookup (name : String) : String := ((values.lookup name).bind id).getD ""
    match readLine lookup line with
    | none => return added
    | some none => define environment added known rest
    | some (some (name, value)) =>
      let isSet := (← environment name).isSome || (added.lookup name).isSome
      define environment (if isSet then added else (name, value) :: added) ((name, value) :: known)
        rest

/-- Definitions in a text. -/
def ofText (environment : String → m (Option String)) (text : String) : m Definitions :=
  let characters := match text.toList with
    | '\ufeff' :: rest => rest
    | all => all
  define environment [] [] (logicalLines .complete [] (physicalLines characters))

end CqlSchema.Settings.Variables
