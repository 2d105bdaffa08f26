import CqlSchema.Table
import CqlSchema.TypeRegistry
/-!
# Statements

The two statements that build a schema, kept as data, and their texts. A table can be created
when no column nests an unfrozen type in an unfrozen collection, when it has a partition key,
and when no clustering column with an order follows one without.
-/

namespace CqlSchema

/-- Statements of a schema. -/
inductive Statement where
  | createType (keyspace : String) (type : UserType)
  | createTable (keyspace : String) (table : Table)
  deriving Repr, DecidableEq

/-- Names separated by a comma and a blank. -/
def commaSeparated (parts : List String) : String :=
  ", ".intercalate parts

namespace Table

/-- First column whose type nests an unfrozen type in an unfrozen collection. -/
def nestingFault? (table : Table) : Option (String × Column) :=
  table.columns.find? fun entry => entry.2.type.nonFrozenNesting.isSome

/-- First clustering column with an order that follows one without, and the first one without;
`since` is the first column without an order among those already passed. -/
def orderFault? (since : Option String) :
    List (String × ClusteringOrder) → Option (String × String)
  | [] => none
  | (name, order) :: rest =>
    match order.isDefined, since with
    | true, some previous => some (name, previous)
    | true, none => orderFault? none rest
    | false, since => orderFault? (some (since.getD name)) rest

/-- Error that keeps a table from being created, if there is one. -/
def fault? (table : Table) : Option SchemaError :=
  match table.nestingFault? with
  | some (column, found) => some (.nonFrozenNesting table.name column found.type)
  | none =>
    if table.partitionKey.isEmpty then some (.missingPartitionKey table.name)
    else (orderFault? none table.clusteringKey).map fun (column, previous) =>
      .inconsistentClusteringOrder table.name column previous

/-- Text of the partition key; several columns are put into parentheses. -/
def partitionText (table : Table) : String :=
  let columns := commaSeparated table.partitionKey
  if table.partitionKey.length > 1 then "(" ++ columns ++ ")" else columns

/-- Text of the primary key: the partition key, then the clustering columns. -/
def primaryKeyText (table : Table) : String :=
  "PRIMARY KEY (" ++
    commaSeparated (table.partitionText :: table.clusteringKey.map Prod.fst) ++ ")"

/-- Orders of the clustering columns that have one. -/
def orderTexts (table : Table) : List String :=
  table.clusteringKey.filterMap fun (name, order) =>
    order.keyword?.map fun keyword => name ++ " " ++ keyword

/-- Text of the clustering order, which is left out where no column has one. -/
def orderText (table : Table) : String :=
  if table.orderTexts.isEmpty then ""
  else " WITH CLUSTERING ORDER BY (" ++ commaSeparated table.orderTexts ++ ")"

/-- Columns as they are written in a statement. -/
def columnTexts (table : Table) : List String :=
  table.columns.map fun (name, column) => column.definition name

end Table

namespace Statement

/-- Text of a statement. -/
def text : Statement → String
  | .createType keyspace type =>
    "CREATE TYPE IF NOT EXISTS " ++ keyspace ++ "." ++ type.definition ++ ";"
  | .createTable keyspace table =>
    "CREATE TABLE IF NOT EXISTS " ++ keyspace ++ "." ++ table.name ++
      "(" ++ commaSeparated table.columnTexts ++ ") " ++ table.primaryKeyText ++
      table.orderText ++ ";"

end Statement

/-- Statement that creates a table, with the handles that its columns mention. -/
def Table.create (keyspace : String) (table : Table) :
    Except SchemaError (Statement × List Handle) :=
  match table.fault? with
  | some fault => .error fault
  | none => .ok (.createTable keyspace table, table.userTypes)

end CqlSchema
