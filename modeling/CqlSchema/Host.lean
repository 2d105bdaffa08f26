import CqlSchema.Host.Fault
/-!
# Hosts

A host is what the command line runs on: files, environment variables, a place to print to, and
programs that can be started. It is a record of operations of any monad, so a command is the same
definition on a real host and on a host that is a value.
-/

namespace CqlSchema

/-- Operations on files, by path. -/
structure Files (m : Type → Type) where
  /-- Content of a file. -/
  read : String → m (Except Host.Fault ByteArray)
  /-- Creates a file or replaces its content. -/
  write : String → ByteArray → m (Except Host.Fault Unit)
  /-- Creates a file or adds to its end. -/
  append : String → ByteArray → m (Except Host.Fault Unit)
  /-- Creates a directory and the directories that it is in. -/
  createDirectories : String → m (Except Host.Fault Unit)
  /-- Removes a file. -/
  remove : String → m (Except Host.Fault Unit)
  /-- Decides whether there is a file or a directory. -/
  isPresent : String → m Bool
  /-- Decides whether there is a file. -/
  isFile : String → m Bool
  /-- Content of a file that may be started. -/
  program : String → m (Except Host.Fault ByteArray)

/-- Ways in which a program ends. -/
inductive Ending where
  | status (code : Nat)
  | signal (number : Nat)
  deriving Repr, DecidableEq

/-- A finished run of a program: how it ended, and what it wrote to its error stream. -/
structure Execution where
  ending : Ending
  errors : ByteArray

/-- Operations of a host. -/
structure Host (m : Type → Type) extends Files m where
  /-- Value of an environment variable. -/
  environment : String → m (Option String)
  /-- Prints a text. -/
  print : String → m Unit
  /-- Starts a program with arguments and waits for its end. -/
  start : String → List String → m (Except Host.Fault Execution)

namespace Files

variable {m : Type → Type} [Monad m]

/-- Content of a file as text. -/
def readText (files : Files m) (path : String) : m (Except Host.Fault String) := do
  match ← files.read path with
  | .error fault => return .error fault
  | .ok content =>
    match String.fromUTF8? content with
    | some text => return .ok text
    | none => return .error .notText

/-- Creates a file with a text or replaces its content. -/
def writeText (files : Files m) (path text : String) : m (Except Host.Fault Unit) :=
  files.write path text.toUTF8

end Files

end CqlSchema
