import CqlSchema.Yaml.Tree.Reader
/-!
# Streams

A stream of tokens holds one document or none. Directives may stand in front of a document that
starts with a marker; behind the document only end markers may follow.
-/

namespace CqlSchema.Yaml

namespace Tree

/-- Directives in front of a document: whether a version was given, and the meanings of
handles. -/
structure Directives where
  versioned : Bool
  handles : Handles

namespace Directives

/-- No directives. -/
def none : Directives := ⟨false, []⟩

/-- Adds a version, which must be the only one, and be 1.1 or 1.2. -/
def addVersion (directives : Directives) (major minor : Nat) : Option Directives :=
  if !directives.versioned && major = 1 && (minor = 1 || minor = 2) then
    some { directives with versioned := true }
  else .none

/-- Adds the meaning of a handle, which must be its only one. -/
def addHandle (directives : Directives) (handle : List Char) (start : List UInt8) :
    Option Directives :=
  if (directives.handles.lookup handle).isSome then .none
  else some { directives with handles := directives.handles ++ [(handle, start)] }

/-- Meanings of all handles; a directive takes precedence over the standard meaning. -/
def allHandles (directives : Directives) : Handles :=
  directives.handles ++ standardHandles

/-- Reads directives from the front of a stream. -/
def read (directives : Directives) : List Token → Option (Directives × List Token)
  | .versionDirective major minor :: rest =>
    (directives.addVersion major minor).bind fun extended => extended.read rest
  | .tagDirective handle start :: rest =>
    (directives.addHandle handle start).bind fun extended => extended.read rest
  | rest => some (directives, rest)

end Directives

/-- Tokens before which a document that has started is empty. -/
def endsEmptyDocument : List Token → Bool
  | [] => true
  | .versionDirective _ _ :: _ => true
  | .tagDirective _ _ :: _ => true
  | .documentStart :: _ => true
  | .documentEnd :: _ => true
  | _ => false

/-- Reads a document behind its directives and its marker, if it has one. -/
def readDocument (tokens : List Token) : Option (Tree String × List Token) := do
  let (directives, rest) ← Directives.none.read tokens
  match rest with
  | .documentStart :: content =>
    if endsEmptyDocument content then return (empty, content)
    readNode directives.allHandles .block [] content
  | content =>
    if content.length < tokens.length then failure
    readNode standardHandles .block [] content

/-- Decides whether nothing but end markers is left. -/
def isFinished (tokens : List Token) : Bool :=
  tokens.all (· = .documentEnd)

/-- The document of a stream, if it holds one; none where the stream is not well formed. -/
def ofTokens? (tokens : List Token) : Option (Option (Tree String)) :=
  if tokens.isEmpty then some .none
  else do
    let (tree, rest) ← readDocument tokens
    if isFinished rest then return some tree else failure

end Tree

end CqlSchema.Yaml
