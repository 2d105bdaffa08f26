import CqlSchema.Shell.Lexer
/-!
# Reading a script

Commands are read from tokens by descent. Reserved words count only where a command may start.
Every reader carries the number of steps that it may still take; the number of tokens of a script
gives enough of them.
-/

namespace CqlSchema.Shell

namespace Command

/-- Readers of tokens. -/
abbrev Reader := StateT (List Token) Option

/-- Reserved word that comes next, or operator. -/
def upcoming : Reader String := do
  match (← get).head? with
  | some (.word _ pieces) => return (Word.plain? pieces).getD ""
  | some (.operator mark) => return mark
  | _ => return ""

/-- Passes over one token. -/
def advance : Reader Unit :=
  modify List.tail

/-- Passes over the given reserved word or operator, which has to come next. -/
def require (mark : String) : Reader Unit := do
  if (← upcoming) = mark then advance else failure

/-- Passes over line breaks. -/
def skipLines : Reader Unit :=
  modify fun tokens => tokens.dropWhile (· = .operator "\n")

/-- Reads a word. -/
def readWord : Reader Word := do
  match ← get with
  | .word _ pieces :: rest =>
    set rest
    return pieces
  | _ => failure

/-- Reads words as long as there are any. -/
def readWords : Reader (List Word) := fun tokens =>
  let isWord : Token → Bool
    | .word .. => true
    | _ => false
  some ((tokens.takeWhile isWord).filterMap fun
    | .word _ pieces => some pieces
    | _ => none, tokens.dropWhile isWord)

/-- Reads redirections as long as there are any. -/
def readRedirects (fuel : Nat) : Reader (List Redirect) := do
  match fuel, ← get with
  | fuel + 1, .redirect stream way :: .word line target :: rest =>
    set rest
    return ⟨line, stream, way, target⟩ :: (← readRedirects fuel)
  | _, .redirect .. :: _ => failure
  | _, _ => return []

/-- Name and value of a word that is an assignment. -/
def assignment? : Word → Option (String × Word) := fun pieces =>
  let leading := pieces.takeWhile fun
    | .text false _ => true
    | _ => false
  let characters := leading.flatMap fun
    | .text _ value => value
    | _ => []
  let name := characters.takeWhile Token.isNameChar
  match characters.dropWhile Token.isNameChar, name with
  | '=' :: value, first :: _ =>
    if first.isDigit then none
    else some (String.ofList name, .text false value :: pieces.drop leading.length)
  | _, _ => none

/-- Reads words and redirections in any order. -/
def readParts (fuel : Nat) : Reader (List Word × List Redirect) := do
  match fuel, ← get with
  | fuel + 1, .word _ pieces :: rest =>
    set rest
    let (words, redirects) ← readParts fuel
    return (pieces :: words, redirects)
  | fuel + 1, .redirect stream way :: .word line target :: rest =>
    set rest
    let (words, redirects) ← readParts fuel
    return (words, ⟨line, stream, way, target⟩ :: redirects)
  | _, .redirect .. :: _ => failure
  | _, _ => return ([], [])

/-- Redirects a command, unless there is nothing to redirect. -/
def withRedirects (redirects : List Redirect) (body : Command) : Command :=
  if redirects.isEmpty then body else .redirected redirects body

/-- Reads a command that is a list of words. -/
def readSimple (fuel : Nat) : Reader Command := do
  let line := match (← get).head? with
    | some (.word line _) => line
    | _ => 1
  let (words, redirects) ← readParts fuel
  if words.isEmpty && redirects.isEmpty then failure
  let assignments := words.map assignment?
  let leading := (assignments.takeWhile Option.isSome).filterMap id
  return withRedirects redirects (.simple line leading (words.drop leading.length))

/-- Marks behind which a list of commands does not go on. -/
def isCloser (mark : String) : Bool :=
  ["then", "else", "elif", "fi", "do", "done", "esac", "\x7d", ")", ";;"].contains mark

mutual

/-- Reads a list of commands up to a closing mark or the end of the script. A command in the
background is run like any other. -/
def readList (fuel : Nat) : Reader Command := do
  match fuel with
  | 0 => failure
  | fuel + 1 =>
    let mark ← upcoming
    if (← get).isEmpty || isCloser mark then return .nothing
    if mark = "\n" || mark = ";" || mark = "&" then
      advance
      readList fuel
    else
      let first ← readChain fuel
      match ← readList fuel with
      | .sequence rest => return .sequence (first :: rest)
      | other => return .sequence [first, other]

/-- Reads pipelines that depend on one another. -/
def readChain (fuel : Nat) : Reader Command := do
  match fuel with
  | 0 => failure
  | fuel + 1 => continueChain fuel (← readPipeline fuel)

/-- Reads the pipelines that depend on what was read. -/
def continueChain (fuel : Nat) (done : Command) : Reader Command := do
  match fuel with
  | 0 => failure
  | fuel + 1 =>
    let mark ← upcoming
    if mark = "&&" then
      advance
      skipLines
      continueChain fuel (.both done (← readPipeline fuel))
    else if mark = "||" then
      advance
      skipLines
      continueChain fuel (.either done (← readPipeline fuel))
    else return done

/-- Reads commands that are connected by pipes. -/
def readPipeline (fuel : Nat) : Reader Command := do
  match fuel with
  | 0 => failure
  | fuel + 1 =>
    if (← upcoming) = "!" then
      advance
      return .negated (← readPipeline fuel)
    let first ← readCommand fuel
    if (← upcoming) = "|" then
      advance
      skipLines
      match ← readPipeline fuel with
      | .pipeline rest => return .pipeline (first :: rest)
      | last => return .pipeline [first, last]
    else return first

/-- Reads one command. -/
def readCommand (fuel : Nat) : Reader Command := do
  match fuel with
  | 0 => failure
  | fuel + 1 =>
    match ← upcoming with
    | "\x7b" =>
      advance
      let body ← readList fuel
      require "\x7d"
      return withRedirects (← readRedirects fuel) body
    | "(" =>
      advance
      let body ← readList fuel
      require ")"
      return withRedirects (← readRedirects fuel) (.subshell body)
    | "if" =>
      advance
      let body ← readBranches fuel
      return withRedirects (← readRedirects fuel) body
    | "for" =>
      advance
      let name ← readWord
      skipLines
      let words ←
        if (← upcoming) = "in" then
          advance
          readWords
        else pure [[.parameter true "@"]]
      if (← upcoming) = ";" then advance
      skipLines
      require "do"
      let body ← readList fuel
      require "done"
      let name ← StateT.lift (Word.plain? name)
      return withRedirects (← readRedirects fuel) (.forEach name words body)
    | "while" => readLoop fuel false
    | "until" => readLoop fuel true
    | "case" =>
      advance
      let subject ← readWord
      skipLines
      require "in"
      let arms ← readArms fuel
      require "esac"
      return withRedirects (← readRedirects fuel) (.caseOf subject arms)
    | _ => readSimple (fuel + 1)

/-- Reads the conditions and bodies of a branching command. -/
def readBranches (fuel : Nat) : Reader Command := do
  match fuel with
  | 0 => failure
  | fuel + 1 =>
    let condition ← readList fuel
    require "then"
    let consequence ← readList fuel
    match ← upcoming with
    | "elif" =>
      advance
      return .branch condition consequence (← readBranches fuel)
    | "else" =>
      advance
      let alternative ← readList fuel
      require "fi"
      return .branch condition consequence alternative
    | _ =>
      require "fi"
      return .branch condition consequence .nothing

/-- Reads a command that is repeated. -/
def readLoop (fuel : Nat) (isUntil : Bool) : Reader Command := do
  match fuel with
  | 0 => failure
  | fuel + 1 =>
    advance
    let condition ← readList fuel
    require "do"
    let body ← readList fuel
    require "done"
    return withRedirects (← readRedirects fuel) (.repeated isUntil condition body)

/-- Reads the arms of a choice by patterns. -/
def readArms (fuel : Nat) : Reader (List (List Word × Command)) := do
  match fuel with
  | 0 => failure
  | fuel + 1 =>
    skipLines
    if (← upcoming) = "esac" then return []
    if (← upcoming) = "(" then advance
    let patterns ← readPatterns fuel
    require ")"
    let body ← readList fuel
    if (← upcoming) = ";;" then
      advance
      return (patterns, body) :: (← readArms fuel)
    else return [(patterns, body)]

/-- Reads the patterns of an arm. -/
def readPatterns (fuel : Nat) : Reader (List Word) := do
  match fuel with
  | 0 => failure
  | fuel + 1 =>
    let first ← readWord
    if (← upcoming) = "|" then
      advance
      return first :: (← readPatterns fuel)
    else return [first]

end

/-- Command that a script consists of. -/
def ofScript? (script : List Char) : Option Command := do
  let tokens ← Token.ofScript? script
  let (command, rest) ← (readList (8 * tokens.length + 8)).run tokens
  if rest.isEmpty then return command else failure

end Command

end CqlSchema.Shell
