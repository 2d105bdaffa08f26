import CqlSchema.Host
import CqlSchema.Shell.Script
/-!
# State of a running script

A running script has parameters, a status and three streams. What it writes to the first two
streams is collected; a stream may instead lead to a file.
-/

namespace CqlSchema.Shell

/-- Places that a stream leads to. -/
inductive Sink where
  | output
  | errors
  | file (path : String)
  | nowhere
  deriving Repr, DecidableEq

/-- Surroundings of a command: where its streams lead, and whether its failure is looked at. -/
structure Context where
  output : Sink
  errors : Sink
  isGuarded : Bool

/-- Surroundings at the start of a script. -/
def Context.start : Context := ⟨.output, .errors, false⟩

/-- State of a running script. -/
structure Machine where
  name : String
  line : Nat
  arguments : List String
  bindings : List (String × String)
  status : Nat
  input : ByteArray
  output : ByteArray
  errors : ByteArray
  isStrict : Bool

/-- Ways in which a command hands on. -/
inductive Flow where
  | next
  | leave (ending : Ending)
  | breakOut (levels : Nat)
  | goOn (levels : Nat)
  deriving Repr, DecidableEq

/-- Runs of a script on files. -/
abbrev Run (m : Type → Type) := StateT Machine m

variable {m : Type → Type} [Monad m]

namespace Machine

/-- State at the start of a script. -/
def start (name : String) (arguments : List String) : Machine :=
  ⟨name, 1, arguments, [], 0, ByteArray.empty, ByteArray.empty, ByteArray.empty, false⟩

/-- Number that a script knows itself by. -/
def processNumber : String := "4242"

/-- Value of a parameter, if it is set. -/
def parameter? (machine : Machine) (name : String) : Option String :=
  match name with
  | "@" => some (" ".intercalate machine.arguments)
  | "*" => some (" ".intercalate machine.arguments)
  | "#" => some machine.arguments.length.repr
  | "?" => some machine.status.repr
  | "$" => some processNumber
  | "0" => some machine.name
  | other =>
    match other.toNat? with
    | some position => machine.arguments[position - 1]?
    | none => machine.bindings.lookup other

/-- Sets a variable. -/
def assign (machine : Machine) (name value : String) : Machine :=
  { machine with bindings := (name, value) :: machine.bindings }

end Machine

/-- Sets the status and goes on. -/
def finish (status : Nat) : Run m Flow := do
  modify fun machine => { machine with status }
  return .next

/-- Writes bytes to a sink. -/
def emit (files : Files m) (sink : Sink) (content : ByteArray) : Run m Unit := do
  match sink with
  | .output => modify fun machine => { machine with output := machine.output ++ content }
  | .errors => modify fun machine => { machine with errors := machine.errors ++ content }
  | .file path =>
    let _ ← StateT.lift (files.append path content)
    return ()
  | .nowhere => return ()

/-- Message of the shell itself, with the name of the script and the line that is being run. -/
def Machine.complaint (machine : Machine) (message : String) : String :=
  s!"{machine.name}: {machine.line}: {message}\n"

/-- Writes a message of the shell itself to the error stream. -/
def complain (files : Files m) (context : Context) (message : String) : Run m Unit := do
  emit files context.errors ((← get).complaint message).toUTF8

/-- Notes the line that is being run. -/
def enterLine (line : Nat) : Run m Unit :=
  modify fun machine => { machine with line }

/-- Runs with the first stream collected apart; returns what was written there. -/
def collect {α : Type} (run : Run m α) : Run m (α × ByteArray) := do
  let before := (← get).output
  modify fun machine => { machine with output := ByteArray.empty }
  let result ← run
  let written := (← get).output
  modify fun machine => { machine with output := before }
  return (result, written)

/-- Runs with the given input. -/
def withInput {α : Type} (input : ByteArray) (run : Run m α) : Run m α := do
  let before := (← get).input
  modify fun machine => { machine with input }
  let result ← run
  modify fun machine => { machine with input := before }
  return result

/-- Runs as a shell of its own: variables stay as they are, and leaving it only sets the status. -/
def apart (run : Run m Flow) : Run m Flow := do
  let before ← get
  let flow ← run
  modify fun machine =>
    { machine with
      bindings := before.bindings
      arguments := before.arguments
      isStrict := before.isStrict }
  match flow with
  | .leave (.status code) => finish code
  | .leave (.signal number) => return .leave (.signal number)
  | _ => return .next

end CqlSchema.Shell
