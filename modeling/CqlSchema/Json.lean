import CqlSchema.Json.Literal
/-!
# JSON values

A value keeps its numbers and strings as they are written, so printing a value that was read
gives back its own spelling. `Json.text` writes a text as a string, and `text?` reads it back.
There are two layouts: `compact`, on one line without blanks, and `pretty`, with one item a
line and an indentation of two blanks a level.
-/

namespace CqlSchema

/-- JSON values, with numbers and strings as written. -/
inductive Json where
  | null
  | bool (value : Bool)
  | number (written : String)
  | string (literal : String)
  | array (items : List Json)
  | object (members : List (String × Json))
  deriving Repr

namespace Json

/-- String that denotes a text. -/
def text (value : String) : Json :=
  .string (quote value)

/-- Number that denotes a natural number. -/
def ofNat (value : Nat) : Json :=
  .number value.repr

/-- Member of an object whose key denotes a text. -/
def member (key : String) (value : Json) : String × Json :=
  (quote key, value)

/-- Object whose keys denote texts, in the given order. -/
def ofMembers (members : List (String × Json)) : Json :=
  .object (members.map fun (key, value) => member key value)

/-- Text that a string denotes; other values denote none. -/
def text? : Json → Option String
  | .string literal => unquote? literal
  | _ => none

/-- A literal in its quotes. -/
def quoted (literal : String) : String :=
  "\x22" ++ literal ++ "\x22"

/-- Spelling of a truth value. -/
def boolText (value : Bool) : String :=
  if value then "true" else "false"

mutual

/-- Value on one line, without blanks. -/
def compact : Json → String
  | .null => "null"
  | .bool value => boolText value
  | .number written => written
  | .string literal => quoted literal
  | .array items => "[" ++ ",".intercalate (compactItems items) ++ "]"
  | .object members => "\x7b" ++ ",".intercalate (compactMembers members) ++ "\x7d"

/-- Items of an array on one line. -/
def compactItems : List Json → List String
  | [] => []
  | item :: rest => item.compact :: compactItems rest

/-- Members of an object on one line. -/
def compactMembers : List (String × Json) → List String
  | [] => []
  | (key, value) :: rest => (quoted key ++ ":" ++ value.compact) :: compactMembers rest

end

/-- Blanks in front of a line at the given level. -/
def indentation (level : Nat) : String :=
  String.ofList (List.replicate (2 * level) ' ')

/-- Lines between two brackets, each one level deeper than the brackets; without lines the
brackets stay together. -/
def block (level : Nat) (first last : String) (lines : List String) : String :=
  if lines.isEmpty then first ++ last
  else
    let margin := "\n" ++ indentation (level + 1)
    first ++ margin ++ ("," ++ margin).intercalate lines ++ "\n" ++ indentation level ++ last

mutual

/-- Value with one item a line, at the given level. -/
def prettyAt (level : Nat) : Json → String
  | .null => "null"
  | .bool value => boolText value
  | .number written => written
  | .string literal => quoted literal
  | .array items => block level "[" "]" (prettyItems (level + 1) items)
  | .object members => block level "\x7b" "\x7d" (prettyMembers (level + 1) members)

/-- Items of an array, one a line. -/
def prettyItems (level : Nat) : List Json → List String
  | [] => []
  | item :: rest => item.prettyAt level :: prettyItems level rest

/-- Members of an object, one a line. -/
def prettyMembers (level : Nat) : List (String × Json) → List String
  | [] => []
  | (key, value) :: rest =>
    (quoted key ++ ": " ++ value.prettyAt level) :: prettyMembers level rest

end

/-- Value with one item a line. -/
def pretty (value : Json) : String :=
  value.prettyAt 0

end Json

end CqlSchema
