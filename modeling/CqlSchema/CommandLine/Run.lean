import CqlSchema.Catalog.Json
import CqlSchema.CommandLine.Arguments
import CqlSchema.CommandLine.Failure
import CqlSchema.Document.Reader
import CqlSchema.Settings.Connection
import CqlSchema.Settings.Context
import CqlSchema.Settings.Variables
import CqlSchema.Text.Blank
import CqlSchema.Text.Lossy
/-!
# Running commands

Commands run on a host. A command that plans reads its schema files in order into one catalog;
rendering, a dry run and a real run work on the same plan. What was printed before a failure
stays printed.
-/

namespace CqlSchema.CommandLine

open Settings (Context Connection Overrides Target Variables.ofText)

variable {m : Type → Type} [Monad m]

/-- Actions that may fail. -/
abbrev Action (m : Type → Type) := ExceptT Failure m

/-- Passes on the outcome of an operation of a host, with a fault made into a failure. -/
def attempt {α : Type} (failure : Host.Fault → Failure)
    (operation : m (Except Host.Fault α)) : Action m α := do
  match ← ExceptT.lift operation with
  | .ok value => return value
  | .error fault => throw (failure fault)

/-- Prints lines. -/
def printLines (host : Host m) (lines : List String) : Action m Unit :=
  ExceptT.lift (host.print (String.join (lines.map (· ++ "\n"))))

/-! ## Plans -/

/-- Declares schema files in a catalog, one after the other. -/
def declareFiles (files : Files m) (catalog : Catalog) : List String → Action m Catalog
  | [] => return catalog
  | file :: rest => do
    let text ← attempt (.unreadable file) (files.readText file)
    match catalog.declareText text with
    | (extended, .ok ()) => declareFiles files extended rest
    | (_, .error error) => throw (.declaration file error)

/-- Schema files of a context, which has to have some. -/
def requireFiles (context : Context) : Action m (List String) :=
  if context.files.isEmpty then throw .filesMissing else return context.files

/-- Catalog that the schema files of a context declare. -/
def catalogOf (files : Files m) (context : Context) : Action m Catalog := do
  declareFiles files Catalog.empty (← requireFiles context)

/-- Plan for a catalog. -/
def planOf (catalog : Catalog) (keyspace : String) : Action m Plan :=
  match catalog.plan keyspace with
  | .ok plan => return plan
  | .error error => throw (.planning error)

/-- Plan of a context, which has to have a keyspace and schema files. -/
def planIn (files : Files m) (context : Context) : Action m Plan := do
  match context.keyspace with
  | none => throw .keyspaceMissing
  | some keyspace => planOf (← catalogOf files context) keyspace

/-- Keyspace of a check that is given none. -/
def checkKeyspace : String := "cqlkit_check"

/-- Text of a plan: its statements, one a line. -/
def script (plan : Plan) : String :=
  "\n".intercalate plan.statements ++ "\n"

/-- Text of a plan in a format. -/
def renderPlan (format : Format) (plan : Plan) : String :=
  match format with
  | .text => script plan
  | .json => plan.toJson.pretty ++ "\n"

/-- Prints a plan, or writes it to a file. -/
def render (host : Host m) (context : Context) (out : Option String) (format : Format) :
    Action m Unit := do
  let plan ← planIn host.toFiles context
  match out with
  | none => ExceptT.lift (host.print (renderPlan format plan))
  | some path =>
    attempt (.unwritable path) (host.toFiles.writeText path (renderPlan format plan))
    printLines host [s!"Wrote {plan.size} statements to {path}"]

/-- Lines of a check that found nothing wrong. -/
def checkLines (catalog : Catalog) (plan : Plan) : List String :=
  [s!"Schema OK: {catalog.types.size} types declared, {catalog.tables.size} tables declared",
    s!"  {plan.types.length} CREATE TYPE, {plan.tables.length} CREATE TABLE statements"]

/-- Plans without doing anything with the plan. -/
def check (host : Host m) (context : Context) (format : Format) : Action m Unit := do
  let catalog ← catalogOf host.toFiles context
  let plan ← planOf catalog (context.keyspace.getD checkKeyspace)
  match format with
  | .text => printLines host (checkLines catalog plan)
  | .json => printLines host [catalog.toJson.pretty]

/-! ## Applying -/

/-- Hands one statement to the program of a target. -/
def query (host : Host m) (target : Target) (statement : String) : m (Except QueryFault Unit) := do
  match ← host.start target.program [target.host, target.port.repr, "-e", statement] with
  | .error fault => return .error (.notStarted target.program fault)
  | .ok execution =>
    if execution.ending = .status 0 then return .ok ()
    else
      let errors := Text.trim (Text.decodeLossy execution.errors.toList)
      return .error (.failed execution.ending (String.ofList errors))

/-- Statements that a run of a plan would execute. -/
def rehearse (plan : Plan) : List String :=
  ((plan.apply record : StateM (List String) (Except (ApplyError Empty) Nat)).run []).2

/-- Target for the connection settings in the environment of a host. -/
def targetOf (host : Host m) (connection : Connection) : Action m Target := do
  let value (name : String) : Action m (Option String) := ExceptT.lift (host.environment name)
  let overrides : Overrides :=
    ⟨← value "CQLKIT_CQLSH", ← value "CQLKIT_HOST", ← value "CQLKIT_PORT"⟩
  match connection.target overrides with
  | .ok target => return target
  | .error (text, fault) => throw (.port text fault)

/-- Applies a plan, or shows what applying it would execute. -/
def apply (host : Host m) (connection : Connection) (context : Context) (isDry : Bool) :
    Action m Unit := do
  let plan ← planIn host.toFiles context
  if isDry then
    printLines host
      (s!"[DRY RUN] Would apply the following to {plan.keyspace}:" :: rehearse plan)
  else
    let target ← targetOf host connection
    printLines host
      [s!"Applying {plan.size} statements to {plan.keyspace} via {target.host}:{target.port}"]
    match ← ExceptT.lift (plan.apply (query host target)) with
    | .ok count => printLines host [s!"Applied {count} statements."]
    | .error error => throw (.execution error)

/-! ## Settings -/

/-- Context of the current directory; one that cannot be read counts as empty. -/
def loadContext (files : Files m) : m Context := do
  if ← files.isPresent Context.path then
    match ← files.readText Context.path with
    | .ok text => return (Context.ofText? text).getD .empty
    | .error _ => return .empty
  else return .empty

/-- Context of a command that is given a keyspace and files. -/
def contextFor (files : Files m) (keyspace : Option String) (given : List String) : m Context := do
  return (← loadContext files).update keyspace given

/-- Shows the context. -/
def showContext (host : Host m) : Action m Unit := do
  printLines host (← ExceptT.lift (loadContext host.toFiles)).lines

/-- Sets what is given in the context. -/
def setContext (host : Host m) (keyspace : Option String) (files : List String) :
    Action m Unit := do
  let context ← ExceptT.lift (contextFor host.toFiles keyspace files)
  attempt .host (host.createDirectories Context.directory)
  attempt .host (host.toFiles.writeText Context.path context.text)
  printLines host ["Context updated."]
  showContext host

/-- Forgets the context. -/
def clearContext (host : Host m) : Action m Unit := do
  if ← ExceptT.lift (host.isPresent Context.path) then
    attempt .host (host.remove Context.path)
  printLines host ["Context cleared."]

/-- Home of the user. -/
def home (host : Host m) : Action m String := do
  match ← ExceptT.lift (host.environment "HOME") with
  | some path => return path
  | none => throw .homeMissing

/-- Connection settings of the user. -/
def loadConnection (host : Host m) : Action m Connection := do
  let path := Connection.path (← home host)
  if ← ExceptT.lift (host.isPresent path) then
    let text ← attempt .host (host.toFiles.readText path)
    match Connection.ofText? text with
    | some connection => return connection
    | none => throw (.settingsUnreadable text)
  else return .empty

/-- Shows the target of the connection settings. -/
def showConnection (host : Host m) (connection : Connection) : Action m Unit := do
  printLines host (← targetOf host connection).lines

/-- Keeps connection settings and shows their target. -/
def setConnection (host : Host m) (connection : Connection) : Action m Unit := do
  let place ← home host
  attempt .host (host.createDirectories (Connection.directory place))
  attempt .host (host.toFiles.writeText (Connection.path place) connection.text)
  printLines host ["Config updated."]
  showConnection host connection

/-! ## Commands -/

/-- Runs a command. The connection settings are read first, whether they are needed or not. -/
def Invocation.run (host : Host m) (invocation : Invocation) : Action m Unit := do
  let connection ← loadConnection host
  let context (files : List String) : Action m Context :=
    ExceptT.lift (contextFor host.toFiles invocation.keyspace files)
  match invocation.command with
  | .setContext files => setContext host invocation.keyspace files
  | .showContext => showContext host
  | .clearContext => clearContext host
  | .setConnection program name port => setConnection host (connection.update program name port)
  | .showConnection => showConnection host connection
  | .render files out => render host (← context files) out invocation.format
  | .check files => check host (← context files) invocation.format
  | .apply files isDry => apply host connection (← context files) isDry

/-- Paths at which a file of variables is looked for: in the given directory, then in those that
it is in. -/
def variablePaths (directory : String) : List String :=
  let names := directory.splitOn "/"
  (List.range names.length).map fun count =>
    "/".intercalate (names.take (names.length - count)) ++ "/.env"

/-- First path that leads to a file. -/
def firstFile? (files : Files m) : List String → m (Option String)
  | [] => return none
  | path :: paths => do
    if ← files.isFile path then return some path else firstFile? files paths

/-- Host with the variables that a file defines; those of the host itself count first. -/
def withVariables (host : Host m) (directory : String) : m (Host m) := do
  match ← firstFile? host.toFiles (variablePaths directory) with
  | none => return host
  | some path =>
    match ← host.toFiles.readText path with
    | .error _ => return host
    | .ok text =>
      let added ← Variables.ofText host.environment text
      return { host with
        environment := fun name => do return (← host.environment name).or (added.lookup name) }

/-- Ends of a run. -/
inductive Outcome where
  | done
  | misused
  | failed (failure : Failure)

namespace Outcome

/-- Code of an end. -/
def code : Outcome → Nat
  | .done => 0
  | .failed _ => 1
  | .misused => 2

/-- Text that an end writes to the error stream. -/
def errorText (explanations : Explanations) : Outcome → String
  | .done => ""
  | .misused => "Error: the arguments are not understood\n"
  | .failed failure => failure.report explanations

end Outcome

/-- Line that shows the version. -/
def versionLine : String := "cqlkit 0.1.0"

/-- Runs the command line in a directory of a host. -/
def run (host : Host m) (directory : String) (arguments : List String) : m Outcome := do
  let host ← withVariables host directory
  match Request.ofArguments? arguments with
  | none => return .misused
  | some .version =>
    host.print (versionLine ++ "\n")
    return .done
  | some .help => return .done
  | some (.invoke invocation) =>
    match ← (invocation.run host).run with
    | .ok () => return .done
    | .error failure => return .failed failure

end CqlSchema.CommandLine
