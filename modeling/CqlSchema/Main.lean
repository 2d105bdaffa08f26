import CqlSchema.CommandLine.Run
import CqlSchema.Shell.Run
/-!
# Command line

Runs the command line on the files and the environment of the process. The program that executes
statements is a shell script, which is run by the shell of this library.
-/

namespace CqlSchema.CommandLine

/-- Fault that an error of the system amounts to. -/
def faultOf : IO.Error → Host.Fault
  | .noFileOrDirectory .. => .missing
  | .noSuchThing .. => .missing
  | .alreadyExists .. => .alreadyPresent
  | .inappropriateType .. => .isDirectory
  | .resourceExhausted .. => .tooManyArguments
  | .unsupportedOperation .. => .notProgram
  | _ => .denied

/-- Outcome of an operation that may end in an error of the system. -/
def guarded {α : Type} (operation : IO α) : IO (Except Host.Fault α) := do
  try
    return .ok (← operation)
  catch error => return .error (faultOf error)

/-- Decides whether a path leads to a directory; none where it leads nowhere. -/
def isDirectory? (path : String) : IO (Option Bool) := do
  try
    let place ← IO.FS.realPath path
    if ← place.pathExists then return some (← place.isDir) else return none
  catch _ => return none

/-- Adds bytes to the end of a file. -/
def appendTo (path : String) (content : ByteArray) : IO Unit :=
  IO.FS.withFile path .append fun handle => handle.write content

/-- Files of the system. -/
def systemFiles : Files IO where
  read path := guarded (IO.FS.readBinFile path)
  write path content := guarded (IO.FS.writeBinFile path content)
  append path content := guarded (appendTo path content)
  createDirectories path := guarded (IO.FS.createDirAll path)
  remove path := guarded (IO.FS.removeFile path)
  isPresent path := do return (← isDirectory? path).isSome
  isFile path := do return (← isDirectory? path) == some false
  program path := guarded (IO.FS.readBinFile path)

/-- The process as a host. -/
def systemHost : Host IO where
  toFiles := systemFiles
  environment name := IO.getEnv name
  print text := IO.print text
  start program arguments := Shell.start systemFiles program arguments

/-- What is said of unreadable texts where their readers give no reasons. -/
def plainExplanations : Explanations where
  document _ := "the text is not a schema document"
  settings _ := "the text is not a record of settings"

end CqlSchema.CommandLine

/-- Runs the command line with the arguments of the process. -/
def main (arguments : List String) : IO UInt32 := do
  let directory ← IO.currentDir
  let outcome ← CqlSchema.CommandLine.run CqlSchema.CommandLine.systemHost directory.toString
    arguments
  IO.eprint (outcome.errorText CqlSchema.CommandLine.plainExplanations)
  return outcome.code.toUInt32
