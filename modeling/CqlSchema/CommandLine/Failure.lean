import CqlSchema.Host.Fault
import CqlSchema.Plan.Apply
import CqlSchema.Settings.Port
import CqlSchema.Host
/-!
# Failures of commands

Every way in which a command fails, kept as a cause. A failure is reported with its wording and
with the wordings of what caused it.
-/

namespace CqlSchema

/-- Names of the signals that end programs. -/
def Ending.signalName (number : Nat) : Option String :=
  [(1, "SIGHUP"), (2, "SIGINT"), (3, "SIGQUIT"), (4, "SIGILL"), (5, "SIGTRAP"), (6, "SIGABRT"),
    (7, "SIGBUS"), (8, "SIGFPE"), (9, "SIGKILL"), (10, "SIGUSR1"), (11, "SIGSEGV"),
    (12, "SIGUSR2"), (13, "SIGPIPE"), (14, "SIGALRM"), (15, "SIGTERM")].lookup number

/-- Wording of the end of a program. -/
def Ending.message : Ending → String
  | .status code => s!"exit status: {code}"
  | .signal number =>
    match signalName number with
    | some name => s!"signal: {number} ({name})"
    | none => s!"signal: {number}"

namespace CommandLine

/-- Faults of executing one statement. -/
inductive QueryFault where
  | notStarted (program : String) (fault : Host.Fault)
  | failed (ending : Ending) (errors : String)
  deriving Repr, DecidableEq

namespace QueryFault

/-- Wording of a fault. -/
def message : QueryFault → String
  | .notStarted program fault => s!"failed to run {program}: {fault.message}"
  | .failed ending errors => s!"cqlsh exited with {ending.message}: {errors}"

/-- Wording of what caused a fault. -/
def causes : QueryFault → List String
  | .notStarted _ fault => [fault.message]
  | .failed .. => []

end QueryFault

/-- Failures of commands. -/
inductive Failure where
  | keyspaceMissing
  | filesMissing
  | unreadable (file : String) (fault : Host.Fault)
  | declaration (file : String) (error : SchemaError)
  | planning (error : SchemaError)
  | unwritable (file : String) (fault : Host.Fault)
  | execution (error : ApplyError QueryFault)
  | port (text : String) (fault : Settings.PortFault)
  | host (fault : Host.Fault)
  | homeMissing
  | settingsUnreadable (text : String)

/-- What the readers of documents and of settings say of the texts that they cannot read. -/
structure Explanations where
  document : String → String
  settings : String → String

variable (explanations : Explanations)

/-- An error of the schema with its stage and its code. -/
def describe (error : SchemaError) : String :=
  let stage := if error.isDeclaration then "declaration error" else "synthesis error"
  s!"{stage} [{error.code}] {error.message explanations.document}"

namespace Failure

/-- Wording of a failure. -/
def message : Failure → String
  | .keyspaceMissing => "Keyspace not specified. Use --keyspace or 'cqlkit context set'"
  | .filesMissing => "No schema files given. Pass files or use 'cqlkit context set --schema'"
  | .unreadable file _ => s!"Failed to read schema file {file}"
  | .declaration file error => s!"{file}: {describe explanations error}"
  | .planning error => describe explanations error
  | .unwritable file _ => s!"Failed to write {file}"
  | .execution error => error.message explanations.document QueryFault.message
  | .port text fault => s!"Invalid CQLKIT_PORT '{text}': {fault.reason}"
  | .host fault => fault.message
  | .homeMissing => "Cannot find home directory"
  | .settingsUnreadable text => explanations.settings text

/-- Wordings of what caused a failure, the nearest cause first. -/
def causes : Failure → List String
  | .unreadable _ fault => [fault.message]
  | .unwritable _ fault => [fault.message]
  | .execution (.execution _ _ fault) => fault.message :: fault.causes
  | _ => []

/-- Text whose lines behind the first one are indented. -/
def indented (margin : String) (text : String) : String :=
  ("\n" ++ margin).intercalate (text.splitOn "\n")

/-- Causes as they are reported: a single one by itself, several with numbers. -/
def causeLines : List String → List String
  | [cause] => ["    " ++ indented "    " cause]
  | causes => causes.zipIdx.map fun (cause, number) =>
    s!"    {number}: " ++ indented "       " cause

/-- Report of a failure. -/
def report (failure : Failure) : String :=
  let causes := failure.causes
  let details :=
    if causes.isEmpty then ""
    else "\n\nCaused by:\n" ++ "\n".intercalate (causeLines causes)
  "Error: " ++ failure.message explanations ++ details ++ "\n"

end Failure

end CommandLine

end CqlSchema
