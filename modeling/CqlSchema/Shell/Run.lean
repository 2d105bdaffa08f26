import CqlSchema.Shell.Expansion
import CqlSchema.Shell.Parser
import CqlSchema.Shell.Utility
/-!
# Running a script

A script is run on the files of a host. Every step of a run takes from a number of steps that is
fixed at the start, so a run ends even where the script would not; a script that runs out of
steps is ended by the signal that a process gets when its time is up.
-/

namespace CqlSchema.Shell

variable {m : Type → Type} [Monad m]

/-- Numbers of signals by name. -/
def signals : List (String × Nat) :=
  [("HUP", 1), ("INT", 2), ("QUIT", 3), ("ILL", 4), ("TRAP", 5), ("ABRT", 6), ("BUS", 7),
    ("FPE", 8), ("KILL", 9), ("USR1", 10), ("SEGV", 11), ("USR2", 12), ("PIPE", 13),
    ("ALRM", 14), ("TERM", 15)]

/-- Number of a signal that is written as a number or as a name. -/
def signalNumber? (text : String) : Option Nat :=
  match text.toNat? with
  | some number => some number
  | none => signals.lookup (if text.startsWith "SIG" then (text.drop 3).toString else text)

/-- Signals that do not end a process. -/
def isHarmless (number : Nat) : Bool :=
  [0, 17, 18, 23, 28].contains number

/-- Signal and process that the arguments of a request for a signal name. -/
def signalRequest? : List String → Option (Nat × String)
  | ["-s", name, process] => (signalNumber? name).map (·, process)
  | [option, process] =>
    if option.startsWith "-" then (signalNumber? (option.drop 1).toString).map (·, process)
    else none
  | [process] => some (15, process)
  | _ => none

/-- Sends a signal to the script itself. -/
def sendSignal (arguments : List String) : Run m Flow :=
  match signalRequest? arguments with
  | some (number, process) =>
    if process ≠ Machine.processNumber then finish 1
    else if isHarmless number then finish 0
    else return .leave (.signal number)
  | none => finish 2

/-- Sets the options and the arguments of a script. -/
def setOptions : List String → Run m Flow
  | [] => finish 0
  | "--" :: arguments => do
    modify fun machine => { machine with arguments }
    finish 0
  | option :: rest => do
    let letters := option.toList
    if letters.head? = some '-' then
      modify fun machine => { machine with isStrict := machine.isStrict || letters.contains 'e' }
      setOptions rest
    else if letters.head? = some '+' then
      modify fun machine => { machine with isStrict := machine.isStrict && !letters.contains 'e' }
      setOptions rest
    else
      modify fun machine => { machine with arguments := option :: rest }
      finish 0

/-- Reads a line of the input into variables; the last one takes what is left. -/
def readLine (names : List String) : Run m Flow := do
  let machine ← get
  if machine.input.isEmpty then return ← finish 1
  let bytes := machine.input.toList
  let line := textOf ⟨(bytes.takeWhile (· ≠ 10)).toArray⟩
  modify fun machine =>
    { machine with input := ⟨((bytes.dropWhile (· ≠ 10)).drop 1).toArray⟩ }
  let rec fill (words : List String) : List String → Run m Unit
    | [] => return ()
    | [name] => modify fun machine => machine.assign name (" ".intercalate words)
    | name :: names => do
      modify fun machine => machine.assign name (words.headD "")
      fill (words.drop 1) names
  fill ((line.splitOn " ").filter (· ≠ "")) (names.filter fun name => !name.startsWith "-")
  finish 0

/-- Leaves the script with the status that an argument gives, or with the last one. -/
def leave (files : Files m) (context : Context) (arguments : List String) : Run m Flow := do
  match arguments with
  | [] => return .leave (.status (← get).status)
  | status :: _ =>
    match status.toNat? with
    | some number => return .leave (.status (number % 256))
    | none =>
      complain files context s!"exit: Illegal number: {status}"
      return .leave (.status 2)

/-- Runs a command that is part of the shell, if there is one of that name. -/
def special? (files : Files m) (context : Context) (name : String) (arguments : List String) :
    Option (Run m Flow) :=
  let count : Nat := ((arguments.head?).bind String.toNat?).getD 1
  match name with
  | "exit" => some (leave files context arguments)
  | "kill" => some (sendSignal arguments)
  | "shift" => some do
    modify fun machine => { machine with arguments := machine.arguments.drop count }
    finish 0
  | "set" => some (setOptions arguments)
  | "read" => some (readLine arguments)
  | "break" => some (return .breakOut count)
  | "continue" => some (return .goOn count)
  | "export" => some do
    for argument in arguments do
      match argument.splitOn "=" with
      | name :: value :: values =>
        modify fun machine => machine.assign name ("=".intercalate (value :: values))
      | _ => pure ()
    finish 0
  | "unset" => some do
    modify fun machine =>
      { machine with bindings := machine.bindings.filter fun entry =>
          !arguments.contains entry.1 }
    finish 0
  | _ => none

/-! ## Running commands -/

/-- Runs commands one after the other. -/
def runEach (run : Command → Run m Flow) : List Command → Run m Flow
  | [] => return .next
  | command :: rest => do
    match ← run command with
    | .next => runEach run rest
    | flow => return flow

/-- Runs a body for every value of a variable. -/
def runForEach (run : Run m Flow) (name : String) : List String → Run m Flow
  | [] => return .next
  | value :: values => do
    modify fun machine => machine.assign name value
    match ← run with
    | .next => runForEach run name values
    | .breakOut (levels + 2) => return .breakOut (levels + 1)
    | .breakOut _ => return .next
    | .goOn (levels + 2) => return .goOn (levels + 1)
    | .goOn _ => runForEach run name values
    | flow => return flow

/-- Runs commands that are connected by pipes; each is a shell of its own. -/
def runPipeline (run : Sink → Command → Run m Flow) (sink : Sink) : List Command → Run m Flow
  | [] => return .next
  | [last] => apart (run sink last)
  | command :: rest => do
    let (flow, written) ← collect (apart (run .output command))
    match flow with
    | .leave ending => return .leave ending
    | _ => withInput written (runPipeline run sink rest)

/-- First arm with a pattern that matches a text. -/
def chooseArm (pattern : Word → Run m (List Pattern)) (subject : List Char) :
    List (List Word × Command) → Run m (Option Command)
  | [] => return none
  | (patterns, body) :: rest => do
    let read ← patterns.mapM pattern
    if read.any fun found => Pattern.matchesAll found subject then return some body
    else chooseArm pattern subject rest

/-- Stream that a duplication names. -/
def duplicated (context : Context) (target : String) : Sink :=
  if target = "1" then context.output else if target = "2" then context.errors else .nowhere

/-- Lets a stream lead to a place. -/
def redirectTo (context : Context) (stream : Nat) (sink : Sink) : Context :=
  if stream = 1 then { context with output := sink }
  else if stream = 2 then { context with errors := sink }
  else context

/-- Stream or device that a path leads to, if it leads to one. -/
def deviceAt? (context : Context) (path : String) : Option Sink :=
  [("/dev/stdout", context.output), ("/dev/stderr", context.errors),
    ("/dev/null", Sink.nowhere)].lookup path

/-- Wording for a path that cannot be read or created. -/
def refusal (isRead : Bool) (path : String) (fault : Host.Fault) : String :=
  let isMissing := fault = .missing ∨ fault = .notDirectory
  if isRead then
    s!"cannot open {path}: " ++ if isMissing then "No such file" else fault.reason
  else s!"cannot create {path}: " ++ if isMissing then "Directory nonexistent" else fault.reason

/-- Applies redirections in order, then runs; a redirection that is refused ends the command. -/
def runRedirected (files : Files m) (expand : Word → Run m String) (context : Context)
    (run : Context → Run m Flow) : List Redirect → Run m Flow
  | [] => run context
  | ⟨line, stream, way, target⟩ :: rest => do
    enterLine line
    let text ← expand target
    let following (sink : Sink) : Run m Flow :=
      runRedirected files expand (redirectTo context stream sink) run rest
    let refused (isRead : Bool) (fault : Host.Fault) : Run m Flow := do
      complain files context (refusal isRead text fault)
      finish 2
    let writing (create : m (Except Host.Fault Unit)) : Run m Flow := do
      match deviceAt? context text with
      | some sink => following sink
      | none =>
        match ← StateT.lift create with
        | .ok () => following (.file text)
        | .error fault => refused false fault
    match way with
    | .write => writing (files.write text ByteArray.empty)
    | .append => writing (files.append text ByteArray.empty)
    | .read =>
      match ← StateT.lift (files.read text) with
      | .ok content => withInput content (runRedirected files expand context run rest)
      | .error fault => refused true fault
    | .duplicate => following (duplicated context text)
    | .here => withInput text.toUTF8 (runRedirected files expand context run rest)

/-- Places where programs without a path are found. -/
def searchPath : List String := ["/usr/bin/", "/bin/"]

/-- Content of the first program of a name on a search path. Where there is none, a place that
denied access counts before the places that hold nothing. -/
def searchProgram (files : Files m) (program : String) (fault : Host.Fault) :
    List String → m (Except Host.Fault ByteArray)
  | [] => return .error fault
  | place :: places => do
    match ← files.program (place ++ program) with
    | .ok content => return .ok content
    | .error .denied => searchProgram files program .denied places
    | .error _ => searchProgram files program fault places

/-- Content of a program, by its path or by its name. -/
def findProgram (files : Files m) (program : String) : m (Except Host.Fault ByteArray) :=
  if program.contains '/' then files.program program
  else if program.isEmpty then return .error .missing
  else searchProgram files program .missing searchPath

/-- Script in a program; none where it is not a program for this shell. -/
def scriptOf? (content : ByteArray) : Option (List Char) :=
  let text := textOf content
  if text.startsWith "#!" then some text.toList else none

/-- Ends a script that is strict when a command fails whose failure nobody looks at. -/
def heed (context : Context) (flow : Flow) : Run m Flow := do
  let machine ← get
  if flow = .next && machine.isStrict && !context.isGuarded && machine.status ≠ 0 then
    return .leave (.status machine.status)
  else return flow

/-- Runs a command. -/
def run (files : Files m) (fuel : Nat) (context : Context) (command : Command) : Run m Flow := do
  match fuel with
  | 0 => return .leave (.signal 14)
  | fuel + 1 =>
    let guarded : Context := { context with isGuarded := true }
    let substitute (script : List Char) : Run m ByteArray := do
      match Command.ofScript? script with
      | none => return ByteArray.empty
      | some body =>
        let inside : Context := { context with output := .output }
        let (_, written) ← collect (apart (run files fuel inside body))
        return written
    match command with
    | .sequence commands => runEach (run files fuel context) commands
    | .pipeline commands =>
      heed context (← runPipeline
        (fun sink => run files fuel { guarded with output := sink }) context.output commands)
    | .negated body =>
      match ← run files fuel guarded body with
      | .next => finish (if (← get).status = 0 then 1 else 0)
      | flow => return flow
    | .both first second =>
      match ← run files fuel guarded first with
      | .next => if (← get).status = 0 then run files fuel context second else return .next
      | flow => return flow
    | .either first second =>
      match ← run files fuel guarded first with
      | .next => if (← get).status = 0 then return .next else run files fuel context second
      | flow => return flow
    | .subshell body => heed context (← apart (run files fuel context body))
    | .branch condition consequence alternative =>
      match ← run files fuel guarded condition with
      | .next =>
        if (← get).status = 0 then run files fuel context consequence
        else
          modify fun machine => { machine with status := 0 }
          run files fuel context alternative
      | flow => return flow
    | .forEach name words body =>
      let values ← expandFields substitute words
      runForEach (run files fuel context body) name values
    | .caseOf subject arms =>
      let text ← expandText substitute subject
      match ← chooseArm (expandPattern substitute) text.toList arms with
      | some body => run files fuel context body
      | none => finish 0
    | .repeated isUntil condition body =>
      match ← run files fuel guarded condition with
      | .next =>
        if ((← get).status = 0) = isUntil then finish 0
        else
          match ← run files fuel context body with
          | .next => run files fuel context (.repeated isUntil condition body)
          | .breakOut (levels + 2) => return .breakOut (levels + 1)
          | .breakOut _ => return .next
          | .goOn (levels + 2) => return .goOn (levels + 1)
          | .goOn _ => run files fuel context (.repeated isUntil condition body)
          | flow => return flow
      | flow => return flow
    | .redirected redirects body =>
      runRedirected files (expandText substitute) context
        (fun inside => run files fuel inside body) redirects
    | .simple line assignments words =>
      enterLine line
      let fields ← expandFields substitute words
      for (name, value) in assignments do
        let text ← expandText substitute value
        modify fun machine => machine.assign name text
      match fields with
      | [] => if words.isEmpty && assignments.isEmpty then return .next else finish 0
      | name :: arguments =>
        match special? files context name arguments with
        | some action => action
        | none =>
          match utility? files name arguments with
          | some action =>
            let report ← action
            emit files context.output report.output
            emit files context.errors report.errors
            finish report.status >>= heed context
          | none =>
            match ← StateT.lift (findProgram files name) with
            | .error .denied =>
              complain files context s!"{name}: Permission denied"
              finish (if name.contains '/' then 126 else 127) >>= heed context
            | .error _ =>
              complain files context s!"{name}: not found"
              finish 127 >>= heed context
            | .ok content =>
              match Command.ofScript? (textOf content).toList with
              | none => finish 2 >>= heed context
              | some body =>
                let outer ← get
                modify fun machine => { machine with name, arguments, isStrict := false }
                let flow ← apart (run files fuel context body)
                modify fun machine =>
                  { machine with
                    name := outer.name
                    arguments := outer.arguments
                    isStrict := outer.isStrict }
                heed context flow

/-- Steps that a script may take. -/
def maxSteps : Nat := 100000

/-- Longest argument that a program can be given, and one more. -/
def maxArgument : Nat := 131072

/-- Interpreter and option in the first line of a script. -/
def interpreterOf (script : List Char) : List String :=
  let line := String.ofList ((script.takeWhile (· ≠ '\n')).drop 2)
  ((line.replace "\t" " ").splitOn " ").filter (· ≠ "")

/-- Runs a script with arguments from its start to its end. -/
def runScript (files : Files m) (name : String) (arguments : List String) (script : List Char) :
    m Execution := do
  match Command.ofScript? script with
  | none => return ⟨.status 2, s!"{name}: 1: Syntax error\n".toUTF8⟩
  | some body =>
    let isStrict := (interpreterOf script).any fun option =>
      option.startsWith "-" && option.contains 'e'
    let machine := { Machine.start name arguments with isStrict }
    let (flow, after) ← (run files maxSteps Context.start body).run machine
    match flow with
    | .leave ending => return ⟨ending, after.errors⟩
    | _ => return ⟨.status after.status, after.errors⟩

/-- Starts a program with arguments. A program is a script whose first line names an interpreter
that is itself a program. -/
def start (files : Files m) (program : String) (arguments : List String) :
    m (Except Host.Fault Execution) := do
  if (program :: arguments).any (·.contains '\x00') then return .error .zeroInArgument
  match ← findProgram files program with
  | .error fault => return .error fault
  | .ok content =>
    if (program :: arguments).any (maxArgument ≤ ·.utf8ByteSize) then
      return .error .tooManyArguments
    match scriptOf? content with
    | none => return .error .notProgram
    | some script =>
      match interpreterOf script with
      | [] => return .error .notProgram
      | interpreter :: _ =>
        match ← files.program interpreter with
        | .error fault => return .error fault
        | .ok _ => return .ok (← runScript files program arguments script)

end CqlSchema.Shell
