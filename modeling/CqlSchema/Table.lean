import CqlSchema.Column
import CqlSchema.Entries
import CqlSchema.SchemaError
/-!
# Tables

A table is a name and a list of named columns in declaration order, which is also the order of
its key columns. The registry of tables keeps them in declaration order beside the folded names
that are taken. A declaration takes its name before its table is stored, so it does so last of
all that can be refused.
-/

namespace CqlSchema

/-- A declared table. -/
structure Table where
  name : String
  columns : Entries Column
  deriving Repr, DecidableEq

namespace Table

/-- Column with exactly the given name. -/
def find? (table : Table) (name : String) : Option Column :=
  table.columns.lookup name

/-- Names of the columns of the partition key. -/
def partitionKey (table : Table) : List String :=
  (table.columns.filter fun entry => entry.2.isPartition).map Prod.fst

/-- Columns of the clustering key, with their orders. -/
def clusteringKey (table : Table) : List (String × ClusteringOrder) :=
  table.columns.filterMap fun entry => entry.2.order?.map (entry.1, ·)

/-- Handles in the types of the columns, in order and with repetitions. -/
def userTypes (table : Table) : List Handle :=
  table.columns.flatMap fun entry => entry.2.type.userTypes

end Table

/-- A table as it is offered for declaration: the name of the declared type, a name that may
replace it, and the columns. -/
structure TableDeclaration where
  typeName : String
  rename : Option String
  columns : List (String × Column)
  deriving Repr, DecidableEq

/-- Name under which a declared table is known. -/
def TableDeclaration.name (declaration : TableDeclaration) : String :=
  declaration.rename.getD declaration.typeName

/-- Tables in declaration order, and their folded names. -/
structure TableRegistry where
  tables : List Table
  names : List String
  deriving Repr, DecidableEq

namespace TableRegistry

/-- Registry without tables. -/
def empty : TableRegistry := ⟨[], []⟩

/-- Number of declared tables. -/
def size (registry : TableRegistry) : Nat :=
  registry.tables.length

/-- Table with exactly the given name. -/
def get? (registry : TableRegistry) (name : String) : Option Table :=
  registry.tables.find? fun table => table.name == name

/-- Decides whether a name is taken, whatever the case of its letters. -/
def hasTable (registry : TableRegistry) (name : String) : Bool :=
  registry.names.contains (Text.fold name)

/-- Fault of one column, given the columns before it, with the name of the column. -/
def columnFault? (earlier : Entries Column) (entry : String × Column) :
    Option (String × ColumnFault) :=
  if !isIdentifier entry.1 then some (entry.1, .nameNotIdentifier)
  else if earlier.any (fun other => Text.sameFolded other.1 entry.1) then
    some (entry.1, .duplicate)
  else none

/-- Takes a name, unless it is taken; tells whether it was free. -/
def reserve (registry : TableRegistry) (name : String) : TableRegistry × Bool :=
  if registry.hasTable name then (registry, false)
  else ({ registry with names := Text.fold name :: registry.names }, true)

/-- Declares a table at the end of the registry. Returns the registry afterwards, with the table
or the error that refuses it. -/
def declare (registry : TableRegistry) (declaration : TableDeclaration) :
    TableRegistry × Except SchemaError Table :=
  if !isIdentifier declaration.name then (registry, .error (.invalidName declaration.name .table))
  else match Entries.collect columnFault? [] declaration.columns with
    | .error (column, fault) => (registry, .error (.invalidColumn declaration.name column fault))
    | .ok columns =>
      match registry.reserve declaration.name with
      | (reserved, false) => (reserved, .error (.duplicateTable declaration.name))
      | (reserved, true) =>
        let table : Table := ⟨declaration.name, columns⟩
        ({ reserved with tables := reserved.tables ++ [table] }, .ok table)

end TableRegistry

end CqlSchema
