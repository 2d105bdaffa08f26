import CqlSchema.Json.Record
/-!
# Context

The context of a directory names the keyspace and the schema files that commands use when none
are given. It is kept as a JSON text, in which what is not set is left out.
-/

namespace CqlSchema.Settings

/-- Keyspace and schema files of a directory. -/
structure Context where
  keyspace : Option String
  files : List String
  deriving Repr, DecidableEq

namespace Context

/-- Context in which nothing is set. -/
def empty : Context := ⟨none, []⟩

/-- Path of the context from its directory. -/
def path : String := ".cqlkit/context.json"

/-- Directory that the context is in. -/
def directory : String := ".cqlkit"

/-- Sets what is given; an empty list of files gives none. -/
def update (context : Context) (keyspace : Option String) (files : List String) : Context where
  keyspace := keyspace.or context.keyspace
  files := if files.isEmpty then context.files else files

/-- A context as JSON. -/
def toJson (context : Context) : Json :=
  .ofMembers
    ((context.keyspace.toList.map fun keyspace => ("keyspace", .text keyspace)) ++
      (if context.files.isEmpty then []
        else [("schema_files", .array (context.files.map .text))]))

/-- Text that a context is kept as. -/
def text (context : Context) : String :=
  context.toJson.pretty

/-- Context that a JSON value describes. -/
def ofJson? (value : Json) : Option Context := do
  match ← value.record? ["keyspace", "schema_files"] 1 with
  | [keyspace, files] => return ⟨← Json.optionalText? keyspace, ← Json.texts? files⟩
  | _ => failure

/-- Context that a text describes. -/
def ofText? (text : String) : Option Context := do
  ofJson? (← Json.parse? text)

/-- Lines that show a context. -/
def lines (context : Context) : List String :=
  ["Current context (.cqlkit/context.json):",
    "  keyspace: " ++ context.keyspace.getD "(not set)"] ++
    (if context.files.isEmpty then ["  schema:   (not set)"]
      else context.files.map ("  schema:   " ++ ·))

end Context

end CqlSchema.Settings
