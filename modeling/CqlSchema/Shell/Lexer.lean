import CqlSchema.Shell.Script
/-!
# Tokens of a script

A script is cut into words, operators and redirections. Quotes, backslashes and substitutions
are part of words; a comment starts with a number sign at the start of a word. Readers that
enter nested pieces carry the number of characters that may still be read.
-/

namespace CqlSchema.Shell

/-- Tokens of a script; a word comes with its line. -/
inductive Token where
  | word (line : Nat) (word : Word)
  | operator (mark : String)
  | redirect (stream : Nat) (way : Redirection)
  deriving Repr, DecidableEq

namespace Token

/-- Text up to a closing mark, and what is behind it. -/
def upTo (mark : Char) : List Char → Option (List Char × List Char)
  | [] => none
  | c :: rest =>
    if c = mark then some ([], rest)
    else (upTo mark rest).map fun (inside, after) => (c :: inside, after)

/-- Text up to the bracket that closes a substitution. Brackets inside are balanced; brackets in
quotes do not count. -/
def upToBracket (depth : Nat) (quote : Option Char) :
    List Char → Option (List Char × List Char)
  | [] => none
  | '\\' :: c :: rest =>
    (upToBracket depth quote rest).map fun (inside, after) => ('\\' :: c :: inside, after)
  | c :: rest =>
    let quoteAfter :=
      if quote = some c then none
      else if quote.isNone && (c = '\x27' || c = '\x22') then some c else quote
    if quote.isNone && c = ')' && depth = 0 then some ([], rest)
    else
      let depthAfter :=
        if quote.isSome then depth
        else if c = '(' then depth + 1 else if c = ')' then depth - 1 else depth
      (upToBracket depthAfter quoteAfter rest).map fun (inside, after) => (c :: inside, after)

/-- Characters that end a word. -/
def endsWord (c : Char) : Bool :=
  [' ', '\t', '\n', ';', '&', '|', '<', '>', '(', ')'].contains c

/-- Characters of parameter names. -/
def isNameChar (c : Char) : Bool :=
  c.isAlphanum || c = '_'

/-- Parameter in braces: a name, or a name and the text that stands in for an unset value. -/
def braced (quoted : Bool) (inside : List Char) : Option Piece :=
  let name := String.ofList (inside.takeWhile isNameChar)
  match inside.dropWhile isNameChar with
  | [] => some (.parameter quoted name)
  | ':' :: '-' :: default => some (.fallback quoted name (String.ofList default))
  | _ => if inside.length = 1 then some (.parameter quoted (String.ofList inside)) else none

/-- Reads an expansion behind its dollar sign. -/
def readDollar (quoted : Bool) : List Char → Option (Piece × List Char)
  | '(' :: rest => do
    let (inside, after) ← upToBracket 0 none rest
    match inside with
    | '(' :: sum =>
      if sum.getLast? = some ')' then return (.arithmetic quoted sum.dropLast, after)
      else return (.output quoted inside, after)
    | _ => return (.output quoted inside, after)
  | '{' :: rest => do
    let (inside, after) ← upTo '}' rest
    return (← braced quoted inside, after)
  | c :: rest =>
    if c.isAlpha || c = '_' then
      let name := (c :: rest).takeWhile isNameChar
      some (.parameter quoted (String.ofList name), (c :: rest).dropWhile isNameChar)
    else if c.isDigit || ['@', '*', '#', '?', '$', '!', '-'].contains c then
      some (.parameter quoted c.toString, rest)
    else some (.text quoted ['$'], c :: rest)
  | [] => some (.text quoted ['$'], [])

/-- Reads the pieces of a word, in double quotes or outside them. -/
def readPieces (quoted : Bool) (fuel : Nat) (text : List Char) : Option (Word × List Char) :=
  match fuel with
  | 0 => none
  | fuel + 1 =>
    let following (piece : Piece) (inQuotes : Bool) (rest : List Char) :=
      (readPieces inQuotes fuel rest).map fun (pieces, after) => (piece :: pieces, after)
    match text with
    | [] => if quoted then none else some ([], [])
    | '\\' :: '\n' :: rest => readPieces quoted fuel rest
    | '\\' :: c :: rest =>
      if quoted && !(['$', '\x60', '\x22', '\\'].contains c) then
        following (.text true ['\\', c]) quoted rest
      else following (.text true [c]) quoted rest
    | '\x22' :: rest => following (.text true []) (!quoted) rest
    | '$' :: rest =>
      (readDollar quoted rest).bind fun (piece, after) => following piece quoted after
    | '\x60' :: rest =>
      (upTo '\x60' rest).bind fun (inside, after) => following (.output quoted inside) quoted after
    | '\x27' :: rest =>
      if quoted then following (.text true ['\x27']) quoted rest
      else (upTo '\x27' rest).bind fun (inside, after) =>
        following (.text true inside) quoted after
    | c :: rest =>
      if !quoted && endsWord c then some ([], c :: rest)
      else following (.text quoted [c]) quoted rest

/-- Operators, longer ones first. -/
def operators : List String :=
  [";;", "&&", "||", ";", "&", "|", "(", ")", "\n"]

/-- Redirections, longer ones first. -/
def redirections : List (String × Redirection) :=
  [("<<", .here), (">>", .append), (">&", .duplicate), ("<&", .duplicate), (">|", .write),
    (">", .write), ("<", .read)]

/-- First of the given marks that a text starts with, and what is behind it. -/
def markAt {α : Type} (marks : List (String × α)) (text : List Char) :
    Option (α × List Char) :=
  (marks.find? fun entry => entry.1.toList.isPrefixOf text).map fun (mark, value) =>
    (value, text.drop mark.length)

/-- Redirection with the number of its stream, which need not be written. -/
def redirectAt (text : List Char) : Option (Token × List Char) := do
  let digits := text.takeWhile Char.isDigit
  let (way, after) ← markAt redirections (text.drop digits.length)
  let usual := if (text.drop digits.length).head? = some '<' then 0 else 1
  let stream := if digits.isEmpty then usual else digits.foldl (fun n c => n * 10 + c.toNat - 48) 0
  return (.redirect stream way, after)

/-- Splits lines at the one that ends a text in the script itself. -/
def hereText (delimiter : List Char) (fuel : Nat) (text : List Char) : List Char × List Char :=
  match fuel with
  | 0 => ([], [])
  | fuel + 1 =>
    let line := text.takeWhile (· ≠ '\n')
    let after := (text.dropWhile (· ≠ '\n')).drop 1
    if text.isEmpty || line = delimiter then ([], after)
    else
      let (inside, rest) := hereText delimiter fuel after
      (line ++ '\n' :: inside, rest)

/-- Word for a text in the script itself; expansions count unless its delimiter is quoted. -/
def hereWord (isQuoted : Bool) (text : List Char) : Option Word :=
  if isQuoted then some [.text true text]
  else
    let escaped := text.flatMap fun c => if c = '\x22' then ['\\', c] else [c]
    (readPieces true (escaped.length + 2) (escaped ++ ['\x22'])).map Prod.fst

/-- Text of a word that ends a text in the script itself, and whether it is quoted. -/
def hereDelimiter (word : Word) : List Char × Bool :=
  (word.flatMap fun
    | .text _ value => value
    | _ => [], word.any fun
    | .text quoted _ => quoted
    | _ => false)

/-- Reads the delimiter of a text in the script itself and the text behind the line; returns the
text as a word and what is left of the script. -/
def readHere (text : List Char) : Option (Word × List Char) := do
  let (pieces, after) ← readPieces false (text.length + 1) (text.dropWhile (· = ' '))
  let (delimiter, isQuoted) := hereDelimiter pieces
  let line := after.takeWhile (· ≠ '\n')
  let below := (after.dropWhile (· ≠ '\n')).drop 1
  let (inside, rest) := hereText delimiter (below.length + 1) below
  return (← hereWord isQuoted inside, line ++ '\n' :: rest)

/-- Cuts a script into tokens, counting lines. -/
def readAll (fuel line : Nat) (text : List Char) : Option (List Token) :=
  match fuel with
  | 0 => none
  | fuel + 1 =>
    match text with
    | [] => some []
    | '\\' :: '\n' :: rest => readAll fuel (line + 1) rest
    | '#' :: rest => readAll fuel line (rest.dropWhile (· ≠ '\n'))
    | c :: rest =>
      if c = ' ' ∨ c = '\t' then readAll fuel line rest
      else match redirectAt (c :: rest) with
        | some (.redirect stream .here, after) =>
          (readHere after).bind fun (inside, after) =>
            (readAll fuel line after).map fun tokens =>
              .redirect stream .here :: .word line inside :: tokens
        | some (token, after) => (readAll fuel line after).map (token :: ·)
        | none =>
          match markAt (operators.map fun mark => (mark, mark)) (c :: rest) with
          | some (mark, after) =>
            (readAll fuel (if c = '\n' then line + 1 else line) after).map (.operator mark :: ·)
          | none =>
            (readPieces false (rest.length + 2) (c :: rest)).bind fun (pieces, after) =>
              let lines := ((c :: rest).take (rest.length + 1 - after.length)).count '\n'
              (readAll fuel (line + lines) after).map (.word line pieces :: ·)

/-- Tokens of a script. -/
def ofScript? (script : List Char) : Option (List Token) :=
  readAll (script.length + 1) 1 script

end Token

end CqlSchema.Shell
