import CqlSchema.Json
import CqlSchema.Plan
/-!
# JSON forms of a schema

Types are written as their signatures, orders as words, and columns, fields, types and tables
in declaration order. The order of a clustering column stands between its key and its static
flag; other columns have no order.
-/

namespace CqlSchema

/-- A scalar is written as its keyword. -/
def Scalar.toJson (base : Scalar) : Json :=
  .text base.keyword

/-- A type is written as its signature. -/
def DataType.toJson (type : DataType) : Json :=
  .text type.signature

/-- Word for a clustering order. -/
def ClusteringOrder.word : ClusteringOrder → String
  | .ascending => "ascending"
  | .descending => "descending"
  | .undefined => "undefined"

/-- An order is written as a word. -/
def ClusteringOrder.toJson (order : ClusteringOrder) : Json :=
  .text order.word

/-- Members that describe a role. -/
def Role.members : Role → List (String × Json)
  | .partition => [("key", .text "partition")]
  | .clustering order => [("key", .text "clustering"), ("order", order.toJson)]
  | .regular => [("key", .text "regular")]

/-- A column is written as its type, its role and its static flag. -/
def Column.toJson (column : Column) : Json :=
  .ofMembers (("type", column.type.toJson) :: column.role.members ++
    [("static", .bool column.isStatic)])

/-- A table is written as its name and its columns. -/
def Table.toJson (table : Table) : Json :=
  .ofMembers [("name", .text table.name),
    ("columns", .ofMembers (table.columns.map fun (name, column) => (name, column.toJson)))]

/-- A user defined type is written as its name and its fields. -/
def UserType.toJson (type : UserType) : Json :=
  .ofMembers [("name", .text type.name),
    ("fields", .ofMembers (type.fields.map fun (name, field) => (name, field.toJson)))]

/-- A registry of types is written as the list of its types. -/
def TypeRegistry.toJson (registry : TypeRegistry) : Json :=
  .array (registry.types.map UserType.toJson)

/-- A registry of tables is written as the list of its tables. -/
def TableRegistry.toJson (registry : TableRegistry) : Json :=
  .array (registry.tables.map Table.toJson)

/-- A catalog is written as its types and its tables. -/
def Catalog.toJson (catalog : Catalog) : Json :=
  .ofMembers [("types", catalog.types.toJson), ("tables", catalog.tables.toJson)]

/-- A plan is written as its keyspace and its statements. -/
def Plan.toJson (plan : Plan) : Json :=
  .ofMembers [("keyspace", .text plan.keyspace), ("types", .array (plan.types.map .text)),
    ("tables", .array (plan.tables.map .text))]

end CqlSchema
