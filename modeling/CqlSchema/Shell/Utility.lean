import CqlSchema.Shell.Machine
/-!
# Utilities

The programs that every script can count on. Those that only turn arguments and an input into
an output are functions; the others also read or change files.
-/

namespace CqlSchema.Shell

/-- What a utility writes to its two streams, and its status. -/
structure Report where
  output : ByteArray
  errors : ByteArray
  status : Nat

namespace Report

/-- Nothing but a status. -/
def ofStatus (status : Nat) : Report := ⟨ByteArray.empty, ByteArray.empty, status⟩

/-- A truth value as a status. -/
def ofBool (value : Bool) : Report := ofStatus (if value then 0 else 1)

/-- A text, with success. -/
def ofText (text : String) : Report := ⟨text.toUTF8, ByteArray.empty, 0⟩

/-- A message, with the given status. -/
def complaint (status : Nat) (message : String) : Report :=
  ⟨ByteArray.empty, (message ++ "\n").toUTF8, status⟩

end Report

/-! ## Text with escapes -/

/-- Value of octal digits. -/
def octal (digits : List Char) : Nat :=
  digits.foldl (fun value c => value * 8 + (c.toNat - 48)) 0

/-- Decides whether a character is an octal digit. -/
def isOctal (c : Char) : Bool := '0' ≤ c && c ≤ '7'

/-- Byte that a one-letter escape stands for. -/
def escapeByte? (c : Char) : Option UInt8 :=
  match c with
  | 'a' => some 7
  | 'b' => some 8
  | 't' => some 9
  | 'n' => some 10
  | 'v' => some 11
  | 'f' => some 12
  | 'r' => some 13
  | '\\' => some 92
  | _ => none

/-- Reads an escape behind its backslash: up to three octal digits, or one letter. -/
def readEscape (text : List Char) : List UInt8 × List Char :=
  let digits := (text.take 3).takeWhile isOctal
  if !digits.isEmpty then ([(octal digits).toUInt8], text.drop digits.length)
  else match text with
    | [] => ([92], [])
    | c :: rest =>
      match escapeByte? c with
      | some byte => ([byte], rest)
      | none => (92 :: c.toString.toUTF8.toList, rest)

/-- Bytes of a text whose escapes count; `isCut` tells that the text asked to end there. -/
def unescape (fuel : Nat) (text : List Char) : List UInt8 × Bool :=
  match fuel, text with
  | _ + 1, '\\' :: 'c' :: _ => ([], true)
  | fuel + 1, '\\' :: rest =>
    let digits := if rest.head? = some '0' ∧ (rest[1]?).any isOctal then rest.drop 1 else rest
    let (bytes, after) := readEscape digits
    let (others, isCut) := unescape fuel after
    (bytes ++ others, isCut)
  | fuel + 1, c :: rest =>
    let (others, isCut) := unescape fuel rest
    (c.toString.toUTF8.toList ++ others, isCut)
  | _, _ => ([], false)

/-- Writes the arguments with blanks between them and a line break, which may be left out. -/
def echo (arguments : List String) : Report :=
  let (isBroken, texts) := match arguments with
    | "-n" :: rest => (false, rest)
    | all => (true, all)
  let text := (" ".intercalate texts).toList
  let (bytes, isCut) := unescape (text.length + 1) text
  let last : List UInt8 := if isBroken && !isCut then [10] else []
  ⟨⟨(bytes ++ last).toArray⟩, ByteArray.empty, 0⟩

/-- Bytes of an argument as a directive asks for it. -/
def directive (kind : Char) (argument : String) : List UInt8 :=
  match kind with
  | 'c' => (argument.take 1).toString.toUTF8.toList
  | 'b' => (unescape (argument.length + 1) argument.toList).1
  | 'd' => (toString (argument.toInt?.getD 0)).toUTF8.toList
  | 'i' => (toString (argument.toInt?.getD 0)).toUTF8.toList
  | 'u' => (toString (argument.toInt?.getD 0)).toUTF8.toList
  | 'x' => (String.ofList (Nat.toDigits 16 (argument.toNat?.getD 0))).toUTF8.toList
  | 'o' => (String.ofList (Nat.toDigits 8 (argument.toNat?.getD 0))).toUTF8.toList
  | _ => argument.toUTF8.toList

/-- Writes a format once; returns the arguments that it did not use. -/
def formatOnce (fuel : Nat) (format : List Char) (arguments : List String) :
    List UInt8 × List String :=
  match fuel, format with
  | fuel + 1, '%' :: '%' :: rest =>
    let (others, left) := formatOnce fuel rest arguments
    (37 :: others, left)
  | fuel + 1, '%' :: kind :: rest =>
    let (others, left) := formatOnce fuel rest (arguments.drop 1)
    (directive kind (arguments.headD "") ++ others, left)
  | fuel + 1, '\\' :: rest =>
    let (bytes, after) := match rest with
      | '\x22' :: after => ([34], after)
      | _ => readEscape rest
    let (others, left) := formatOnce fuel after arguments
    (bytes ++ others, left)
  | fuel + 1, c :: rest =>
    let (others, left) := formatOnce fuel rest arguments
    (c.toString.toUTF8.toList ++ others, left)
  | _, _ => ([], arguments)

/-- Writes a format again and again as long as it uses up arguments. -/
def formatAll (fuel : Nat) (format : List Char) (arguments : List String) : List UInt8 :=
  match fuel with
  | 0 => []
  | fuel + 1 =>
    let (bytes, left) := formatOnce (format.length + 1) format arguments
    if left.isEmpty || left.length = arguments.length then bytes
    else bytes ++ formatAll fuel format left

/-- Writes arguments in a format. -/
def printf (arguments : List String) : Report :=
  match arguments with
  | [] => .complaint 2 "printf: usage: printf format [arg ...]"
  | format :: rest =>
    ⟨⟨(formatAll (rest.length + 1) format.toList rest).toArray⟩, ByteArray.empty, 0⟩

/-! ## Counting and searching -/

/-- Lines of a text, with or without a break at the end. -/
def linesOf (text : String) : List String :=
  let parts := text.splitOn "\n"
  if parts.getLast? = some "" then parts.dropLast else parts

/-- Counts of lines, words and bytes, as the options ask for them. -/
def counts (options : List String) (content : ByteArray) : List Nat :=
  let letters := (options.flatMap String.toList).filter (· ≠ '-')
  let isBlank (byte : UInt8) : Bool := byte = 32 || (9 ≤ byte && byte ≤ 13)
  let lines := content.toList.count 10
  let (words, _) := content.toList.foldl
    (fun (count, inside) byte =>
      if isBlank byte then (count, false) else (if inside then count else count + 1, true))
    (0, false)
  (if letters.isEmpty || letters.contains 'l' then [lines] else []) ++
    (if letters.isEmpty || letters.contains 'w' then [words] else []) ++
    (if letters.isEmpty || letters.contains 'c' then [content.size] else [])

/-- Text of an input; bytes that form no text become characters of their own. -/
def textOf (content : ByteArray) : String :=
  (String.fromUTF8? content).getD
    (String.ofList (content.toList.map fun byte => Char.ofNat byte.toNat))

/-- Searches the lines of a text for a literal. -/
def search (options : List String) (literal : String) (content : ByteArray) : Report :=
  let letters := (options.flatMap String.toList).filter (· ≠ '-')
  let found := (linesOf (textOf content)).filter fun line =>
    decide ((line.splitOn literal).length > 1) != letters.contains 'v'
  let output :=
    if letters.contains 'q' then ""
    else if letters.contains 'c' then s!"{found.length}\n"
    else String.join (found.map (· ++ "\n"))
  ⟨output.toUTF8, ByteArray.empty, if found.isEmpty then 1 else 0⟩

/-! ## Conditions -/

variable {m : Type → Type} [Monad m]

/-- Compares numbers; other texts count as no number. -/
def compare (operator left right : String) : Option Bool := do
  let first ← left.trimAscii.toString.toInt?
  let second ← right.trimAscii.toString.toInt?
  match operator with
  | "-eq" => some (first = second)
  | "-ne" => some (first ≠ second)
  | "-lt" => some (first < second)
  | "-le" => some (first ≤ second)
  | "-gt" => some (first > second)
  | "-ge" => some (first ≥ second)
  | _ => none

/-- Decides a condition; none where it is not understood. -/
def decideCondition (files : Files m) : List String → Run m (Option Bool)
  | "!" :: rest => do return (← decideCondition files rest).map (!·)
  | [] => return some false
  | [text] => return some (!text.isEmpty)
  | ["-z", text] => return some text.isEmpty
  | ["-n", text] => return some (!text.isEmpty)
  | ["-e", path] => StateT.lift (some <$> files.isPresent path)
  | ["-f", path] => StateT.lift (some <$> files.isFile path)
  | ["-r", path] => StateT.lift (some <$> files.isPresent path)
  | ["-w", path] => StateT.lift (some <$> files.isPresent path)
  | ["-x", path] => do return some (← StateT.lift (files.program path)).toOption.isSome
  | ["-d", path] => do
    let isPresent ← StateT.lift (files.isPresent path)
    return some (isPresent && !(← StateT.lift (files.isFile path)))
  | ["-s", path] => do
    return some ((← StateT.lift (files.read path)).toOption.any fun content => 0 < content.size)
  | [left, "=", right] => return some (left = right)
  | [left, "!=", right] => return some (left ≠ right)
  | [left, operator, right] => return compare operator left right
  | left :: operator :: right :: "-a" :: rest => do
    let first ← decideCondition files [left, operator, right]
    let second ← decideCondition files rest
    return first.bind fun value => second.map (value && ·)
  | left :: operator :: right :: "-o" :: rest => do
    let first ← decideCondition files [left, operator, right]
    let second ← decideCondition files rest
    return first.bind fun value => second.map (value || ·)
  | _ => return none
  termination_by arguments => arguments.length

/-- Report of a condition. -/
def condition (files : Files m) (arguments : List String) : Run m Report := do
  match ← decideCondition files arguments with
  | some value => return .ofBool value
  | none => return ⟨ByteArray.empty, ((← get).complaint "[: unexpected operator").toUTF8, 2⟩

/-! ## Files -/

/-- Reads files one after the other, or the input where no file is named. -/
def contents (files : Files m) (utility : String) (paths : List String) :
    Run m (List (String × ByteArray) × List String) := do
  if paths.isEmpty then return ([("", (← get).input)], [])
  let read ← paths.mapM fun path => do
    if path = "-" then return (path, .ok (← get).input)
    return (path, ← StateT.lift (files.read path))
  return (read.filterMap fun (path, outcome) => outcome.toOption.map (path, ·),
    read.filterMap fun (path, outcome) =>
      match outcome with
      | .ok _ => none
      | .error fault => some s!"{utility}: {path}: {fault.reason}\n")

/-- Report of a utility that reads files. -/
def reading (files : Files m) (utility : String) (paths : List String)
    (render : List (String × ByteArray) → ByteArray) : Run m Report := do
  let (found, complaints) ← contents files utility paths
  return ⟨render found, (String.join complaints).toUTF8, if complaints.isEmpty then 0 else 1⟩

/-- Options and other arguments. -/
def splitOptions (arguments : List String) : List String × List String :=
  arguments.partition fun argument => argument.startsWith "-" && argument ≠ "-"

/-- Runs a change of a file for every path. -/
def changing (utility : String) (paths : List String)
    (change : String → m (Except Host.Fault Unit)) : Run m Report := do
  let outcomes ← paths.mapM fun path => do return (path, ← StateT.lift (change path))
  let complaints := outcomes.filterMap fun (path, outcome) =>
    match outcome with
    | .ok () => none
    | .error fault => some s!"{utility}: {path}: {fault.reason}\n"
  return ⟨ByteArray.empty, (String.join complaints).toUTF8, if complaints.isEmpty then 0 else 1⟩

/-- Runs a utility, if there is one of that name. -/
def utility? (files : Files m) (name : String) (arguments : List String) :
    Option (Run m Report) :=
  let (options, others) := splitOptions arguments
  match name with
  | "true" => some (return .ofStatus 0)
  | ":" => some (return .ofStatus 0)
  | "false" => some (return .ofStatus 1)
  | "sleep" => some (return .ofStatus 0)
  | "echo" => some (return echo arguments)
  | "printf" => some (return printf arguments)
  | "test" => some (condition files arguments)
  | "[" =>
    if arguments.getLast? = some "]" then some (condition files arguments.dropLast)
    else some do
      return ⟨ByteArray.empty, ((← get).complaint "[: missing ]").toUTF8, 2⟩
  | "cat" =>
    some (reading files "cat" others fun found =>
      found.foldl (fun all (_, content) => all ++ content) ByteArray.empty)
  | "wc" =>
    some (reading files "wc" others fun found =>
      (String.join (found.map fun (path, content) =>
        let parts := (counts options content).map Nat.repr ++ (if path.isEmpty then [] else [path])
        " ".intercalate parts ++ "\n")).toUTF8)
  | "grep" =>
    match others with
    | literal :: paths => some do
      let (found, _) ← contents files "grep" paths
      return search options literal (found.foldl (fun all (_, content) => all ++ content) .empty)
    | [] => some (return .complaint 2 "grep: no pattern")
  | "touch" => some (changing "touch" others fun path => files.append path ByteArray.empty)
  | "rm" => some (changing "rm" others files.remove)
  | "mkdir" => some (changing "mkdir" others files.createDirectories)
  | _ => none

end CqlSchema.Shell
