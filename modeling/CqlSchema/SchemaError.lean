import CqlSchema.DataType.Parser
import CqlSchema.DataType.Signature
/-!
# Errors

Every way in which a declaration or a synthesis fails, kept as a cause. The code, the wording
and the stage of an error are functions of its cause.
-/

namespace CqlSchema

/-- Faults of a type, be it declared, written as a signature or referenced. -/
inductive TypeFault where
  | nameNotIdentifier
  | fieldNotIdentifier (field : String)
  | fieldReference (field : String)
  | duplicateField (field : String)
  | noFields
  | undeclared
  | signature (fault : DataType.SignatureFault)
  | fieldSignature (field text : String) (fault : DataType.SignatureFault)
  deriving Repr, DecidableEq

/-- Faults of a column in a table declaration. -/
inductive ColumnFault where
  | nameNotIdentifier
  | duplicate
  | reference
  | unknownField (field : String)
  | missingType
  | unknownOrder (word : String)
  | staticPartition
  | unknownKey (word : String)
  | misplacedOrder
  deriving Repr, DecidableEq

/-- Named things that are neither types nor columns. -/
inductive NameRole where
  | table
  | keyspace
  deriving Repr, DecidableEq

/-- Errors of declaring a schema and of synthesising its statements. -/
inductive SchemaError where
  | invalidType (name : String) (fault : TypeFault)
  | invalidColumn (table column : String) (fault : ColumnFault)
  | invalidName (name : String) (role : NameRole)
  | duplicateTable (name : String)
  | duplicateType (name : String)
  | missingPartitionKey (table : String)
  | inconsistentClusteringOrder (table column previous : String)
  | nonFrozenNesting (table column : String) (type : DataType)
  | unsupportedVersion (version : Nat)
  | unreadableDocument (text : String)
  deriving Repr, DecidableEq

/-- Wording of a fault in a signature. -/
def DataType.SignatureFault.reason : DataType.SignatureFault → String
  | .typeNameExpected offset => s!"expected a type name at offset {offset}"
  | .markExpected mark offset => s!"expected '{mark}' at offset {offset}"
  | .trailingInput offset => s!"unexpected trailing input at offset {offset}"
  | .unknownName _ => "not a storage type or declared user defined type"

/-- Text that an error about a signature names: an unknown word, else the whole signature. -/
def DataType.SignatureFault.subject (text : String) : DataType.SignatureFault → String
  | .unknownName word => word
  | _ => text

/-- Wording of a fault of a type. -/
def TypeFault.reason : TypeFault → String
  | .nameNotIdentifier => "type name must be a plain identifier"
  | .fieldNotIdentifier field => s!"field name '{field}' must be a plain identifier"
  | .fieldReference field => s!"field '{field}' references an undeclared user defined type"
  | .duplicateField field => s!"duplicate field '{field}'"
  | .noFields => "user defined type must declare at least one field"
  | .undeclared => "user defined type is not declared in this registry"
  | .signature fault => fault.reason
  | .fieldSignature field text fault => s!"field '{field}' has type '{text}': {fault.reason}"

/-- Wording of a fault of a column. -/
def ColumnFault.reason : ColumnFault → String
  | .nameNotIdentifier => "column name must be a plain identifier"
  | .duplicate => "duplicate column"
  | .reference => "references a user defined type that is not declared in this catalog"
  | .unknownField field => s!"unknown field '{field}' (expected type, key, order or static)"
  | .missingType => "missing field 'type'"
  | .unknownOrder word => s!"unknown clustering order '{word}' (expected asc or desc)"
  | .staticPartition => "partition key can't be static"
  | .unknownKey word =>
    s!"unknown column key '{word}' (expected partition, clustering or regular)"
  | .misplacedOrder => "order is only allowed on clustering columns"

/-- Wording of a name that is no identifier. -/
def NameRole.reason : NameRole → String
  | .table => "table name must be a plain identifier"
  | .keyspace => "keyspace name must be a plain identifier"

namespace SchemaError

/-- The only document version that is understood. -/
def supportedVersion : Nat := 1

/-- Error about a text that is not a signature. -/
def ofSignature (text : String) (fault : DataType.SignatureFault) : SchemaError :=
  .invalidType (fault.subject text) (.signature fault)

/-- Stable code of an error. -/
def code : SchemaError → String
  | .invalidType .. => "INVALID_TYPE"
  | .invalidColumn .. => "INVALID_COLUMN"
  | .invalidName .. => "INVALID_NAME"
  | .duplicateTable .. => "DUPLICATE_TABLE"
  | .duplicateType .. => "DUPLICATE_TYPE"
  | .missingPartitionKey .. => "MISSING_PARTITION_KEY"
  | .inconsistentClusteringOrder .. => "INCONSISTENT_CLUSTERING_ORDER"
  | .nonFrozenNesting .. => "NON_FROZEN_NESTING"
  | .unsupportedVersion .. => "SCHEMA_PARSE_ERROR"
  | .unreadableDocument _ => "YAML_ERROR"

/-- Wording of an error, given what the reader of documents says of a text that it cannot read. -/
def message (explain : String → String) : SchemaError → String
  | .invalidType name fault => s!"invalid type '{name}': {fault.reason}"
  | .invalidColumn table column fault =>
    s!"invalid column '{column}' in table '{table}': {fault.reason}"
  | .invalidName name role => s!"invalid name '{name}': {role.reason}"
  | .duplicateTable name => s!"Table {name} conflicts a table with the same name"
  | .duplicateType name => s!"User defined type {name} conflicts a type with the same name"
  | .missingPartitionKey table => s!"Table {table} doesn't have a partition key"
  | .inconsistentClusteringOrder table column previous =>
    s!"Column {column} of table {table} can't be used in clustering ordering because " ++
    s!"previous column {previous} ordering is undefined. Add an ordering for {previous} or " ++
    s!"swap the columns initialization order in {table}"
  | .nonFrozenNesting table column type =>
    s!"column '{column}' of table '{table}' nests a non-frozen type inside a collection: " ++
    type.signature
  | .unsupportedVersion version =>
    s!"schema parse error: unsupported schema version {version} (expected {supportedVersion})"
  | .unreadableDocument text => s!"YAML parse error: {explain text}"

/-- Errors of synthesis arise from a catalog that was declared; all others arise while it is
being declared. -/
def isDeclaration : SchemaError → Bool
  | .missingPartitionKey .. | .inconsistentClusteringOrder .. | .nonFrozenNesting .. => false
  | _ => true

end SchemaError

end CqlSchema
