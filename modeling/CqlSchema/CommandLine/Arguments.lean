import CqlSchema.CommandLine.Invocation
/-!
# Arguments

Arguments lead through a tree of commands: words choose a branch, and at a leaf they are files.
Options may stand anywhere behind the word of their command. An option is given once at a level;
where an option is given at several levels, the deepest one counts.
-/

namespace CqlSchema.CommandLine

/-- Kinds of options, by what they take. -/
inductive OptionKind where
  | flag
  | text
  | path
  | paths
  | format
  | port
  deriving Repr, DecidableEq

/-- Levels of the tree of commands. -/
inductive Level where
  | root
  | context
  | connection
  | schema
  | setContext
  | showContext
  | clearContext
  | setConnection
  | showConnection
  | render
  | check
  | apply
  deriving Repr, DecidableEq

namespace Level

/-- Options of a level that not every level has. -/
def ownOptions : Level → List (String × OptionKind)
  | .setContext => [("schema", .paths)]
  | .setConnection => [("cqlsh", .text), ("host", .text), ("port", .port)]
  | .render => [("out", .path)]
  | .apply => [("dry-run", .flag)]
  | _ => []

/-- Options of a level. -/
def options (level : Level) : List (String × OptionKind) :=
  [("keyspace", .text), ("format", .format)] ++ level.ownOptions

/-- Words that lead on from a level. -/
def branches : Level → List (String × Level)
  | .root =>
    [("context", .context), ("config", .connection), ("schema", .schema), ("apply", .apply)]
  | .context => [("set", .setContext), ("show", .showContext), ("clear", .clearContext)]
  | .connection => [("set", .setConnection), ("show", .showConnection)]
  | .schema => [("render", .render), ("check", .check)]
  | _ => []

/-- Decides whether a level takes files. -/
def takesFiles : Level → Bool
  | .render => true
  | .check => true
  | .apply => true
  | _ => false

end Level

/-- Number with an optional sign. -/
def signedNumber? (text : String) : Option Int :=
  let digits? (digits : List Char) : Option Nat :=
    if digits.isEmpty || !digits.all Char.isDigit then none
    else some (digits.foldl (fun value c => value * 10 + (c.toNat - '0'.toNat)) 0)
  match text.toList with
  | '-' :: digits => (digits? digits).map fun value => -Int.ofNat value
  | '+' :: digits => (digits? digits).map Int.ofNat
  | digits => (digits? digits).map Int.ofNat

/-- Port that the value of an option writes. -/
def portOption? (value : String) : Option Nat :=
  ((signedNumber? value).filter fun port : Int =>
    0 ≤ port && port ≤ Int.ofNat Settings.maxPort).map Int.toNat

/-- Decides whether an option takes a value. -/
def OptionKind.accepts (value : String) : OptionKind → Bool
  | .flag => false
  | .text => true
  | .path => !value.isEmpty
  | .paths => !value.isEmpty
  | .format => (Format.ofWord? value).isSome
  | .port => (portOption? value).isSome

/-- Options that were given at one level, in order. -/
abbrev Given := List (String × String)

/-- Adds an option, unless it may not be given again. -/
def Given.add (given : Given) (name value : String) (kind : OptionKind) : Option Given :=
  if kind ≠ .paths && given.any (·.1 == name) then none else some (given ++ [(name, value)])

/-- What arguments amount to: an answer at once, or a command with its options and files. -/
inductive Reading where
  | version
  | help
  | command (level : Level) (options : List Given) (files : List String)
  deriving Repr, DecidableEq

/-- An argument that starts with two hyphens: the name of an option, and a value behind an equals
sign. -/
def longOption? (argument : String) : Option (String × Option String) :=
  match argument.toList with
  | '-' :: '-' :: rest =>
    let name := String.ofList (rest.takeWhile (· ≠ '='))
    match rest.dropWhile (· ≠ '=') with
    | [] => some (name, none)
    | _ :: value => some (name, some (String.ofList value))
  | _ => none

/-- Decides whether an argument cannot be the value of the option before it. -/
def looksLikeOption (argument : String) : Bool :=
  argument.startsWith "-" && argument ≠ "-"

/-- Reads files up to the end of the arguments. -/
def readFiles (level : Level) (options : List Given) (files arguments : List String) :
    Option Reading :=
  if (arguments.isEmpty || level.takesFiles) && arguments.all (!·.isEmpty) &&
      level.branches.isEmpty then
    some (.command level options (files ++ arguments))
  else none

/-- Reads arguments at a level. The options come with those of the level first. -/
def readArguments (level : Level) (given : Given) (outer : List Given) (files : List String)
    (arguments : List String) : Option Reading :=
  match arguments with
  | [] => readFiles level (given :: outer) files []
  | "--" :: rest => readFiles level (given :: outer) files rest
  | argument :: rest =>
    match longOption? argument with
    | some ("help", value) => if value.isNone then some .help else none
    | some (name, value) =>
      if name = "version" && level = .root then if value.isNone then some .version else none
      else
        match level.options.lookup name with
        | none => none
        | some .flag =>
          if value.isSome then none
          else (given.add name "" .flag).bind fun given =>
            readArguments level given outer files rest
        | some kind =>
          match value, rest with
          | some value, rest =>
            if kind.accepts value then
              (given.add name value kind).bind fun given =>
                readArguments level given outer files rest
            else none
          | none, value :: rest =>
            if !looksLikeOption value && kind.accepts value then
              (given.add name value kind).bind fun given =>
                readArguments level given outer files rest
            else none
          | none, [] => none
    | none =>
      if looksLikeOption argument then
        match argument.toList[1]? with
        | some 'h' => some .help
        | some 'V' => if level = .root then some .version else none
        | _ => none
      else
        match level.branches.lookup argument with
        | some next => readArguments next [] (given :: outer) files rest
        | none =>
          if level.branches.isEmpty then
            if level.takesFiles && !argument.isEmpty then
              readArguments level given outer (files ++ [argument]) rest
            else none
          else if argument = "help" then some .help
          else none
  termination_by arguments.length

/-- Value of an option at the deepest level that has it. -/
def deepest? (options : List Given) (name : String) : Option String :=
  options.findSome? fun given => given.lookup name

/-- Command at a leaf with the options of the leaf. -/
def commandAt? (level : Level) (given : Given) (files : List String) : Option Command :=
  match level with
  | .setContext => some (.setContext ((given.filter (·.1 == "schema")).map Prod.snd))
  | .showContext => some .showContext
  | .clearContext => some .clearContext
  | .setConnection =>
    some (.setConnection (given.lookup "cqlsh") (given.lookup "host")
      ((given.lookup "port").bind portOption?))
  | .showConnection => some .showConnection
  | .render => some (.render files (given.lookup "out"))
  | .check => some (.check files)
  | .apply => some (.apply files (given.lookup "dry-run").isSome)
  | _ => none

/-- What arguments ask for; none where they are not understood. -/
def Request.ofArguments? (arguments : List String) : Option Request := do
  match ← readArguments .root [] [] [] arguments with
  | .version => return .version
  | .help => return .help
  | .command level options files =>
    let command ← commandAt? level (options.headD []) files
    let format := ((deepest? options "format").bind Format.ofWord?).getD .text
    return .invoke ⟨deepest? options "keyspace", format, command⟩

end CqlSchema.CommandLine
