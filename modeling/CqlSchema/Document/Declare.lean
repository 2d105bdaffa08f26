import CqlSchema.Catalog
import CqlSchema.Document
/-!
# Declaring a document

A document is declared entry by entry: its types in order, then its tables in order. Each entry
is first converted in the catalog that the entries before it have built, then declared there.
The first failure ends the run, and what was declared before it stays.
-/

namespace CqlSchema

namespace ColumnDetail

/-- Order that a description gives; none is an undefined order. -/
def clusteringOrder (detail : ColumnDetail) : Except ColumnFault ClusteringOrder :=
  match detail.order with
  | none => .ok .undefined
  | some word =>
    match ClusteringOrder.ofWord? word with
    | some order => .ok order
    | none => .error (.unknownOrder word)

/-- Column with the role that a description names, which is `regular` when it names none. -/
def column (detail : ColumnDetail) (type : DataType) (order : ClusteringOrder) :
    Except ColumnFault Column :=
  let key := detail.key.getD "regular"
  if key = "partition" then
    if detail.isStatic = some true then .error .staticPartition
    else .ok (Column.partition type)
  else if key = "clustering" then .ok (Column.clustering type order)
  else if key = "regular" then .ok (Column.regular type)
  else .error (.unknownKey key)

/-- Column with a known type that a description amounts to. -/
def finish (detail : ColumnDetail) (type : DataType) : Except ColumnFault Column := do
  let order ← detail.clusteringOrder
  let column ← detail.column type order
  if order.isDefined && !column.isClustering then throw .misplacedOrder
  return column.withStatic (detail.isStatic.getD false)

/-- Signature that a description gives, unless it also gives a key that no column has. -/
def signature (detail : ColumnDetail) : Except ColumnFault String :=
  match detail.unknown, detail.type with
  | field :: _, _ => .error (.unknownField field)
  | [], none => .error .missingType
  | [], some text => .ok text

end ColumnDetail

namespace Catalog

/-- Column that an entry describes. Faults name the table and the column; a text that is not a
signature is reported as it is. -/
def column (catalog : Catalog) (table name : String) (entry : ColumnEntry) :
    Except SchemaError Column := do
  let detail := entry.toDetail
  let text ← detail.signature.mapError (.invalidColumn table name)
  let type ← catalog.types.parse text
  (detail.finish type).mapError (.invalidColumn table name)

/-- Field that an entry describes. A text that is not a signature is reported with the type and
the field it stands in. -/
def field (catalog : Catalog) (type : String) (entry : String × String) :
    Except SchemaError (String × DataType) :=
  match DataType.parse catalog.types.lookup entry.2 with
  | .ok found => .ok (entry.1, found)
  | .error fault => .error (.invalidType type (.fieldSignature entry.1 entry.2 fault))

/-- Converts and declares one type of a document. -/
def declareTypeEntry (catalog : Catalog) (entry : String × Entries String) :
    Catalog × Except SchemaError Unit :=
  match entry.2.mapM (catalog.field entry.1) with
  | .error error => (catalog, .error error)
  | .ok fields =>
    let (extended, outcome) := catalog.addType entry.1 fields
    (extended, outcome.map fun _ => ())

/-- Column of a table of a document, with its name. -/
def namedColumn (catalog : Catalog) (table : String) (entry : String × ColumnEntry) :
    Except SchemaError (String × Column) :=
  (catalog.column table entry.1 entry.2).map (entry.1, ·)

/-- Converts and declares one table of a document. -/
def declareTableEntry (catalog : Catalog) (entry : String × TableEntry) :
    Catalog × Except SchemaError Unit :=
  match entry.2.columns.mapM (catalog.namedColumn (entry.2.name.getD entry.1)) with
  | .error error => (catalog, .error error)
  | .ok columns =>
    let (extended, outcome) := catalog.addTable ⟨entry.1, entry.2.name, columns⟩
    (extended, outcome.map fun _ => ())

/-- Runs declarations in order until one fails; what was changed before the failure stays. -/
def declareEach {α : Type} (declare : Catalog → α → Catalog × Except SchemaError Unit)
    (catalog : Catalog) : List α → Catalog × Except SchemaError Unit
  | [] => (catalog, .ok ())
  | entry :: rest =>
    match declare catalog entry with
    | (extended, .ok ()) => declareEach declare extended rest
    | (extended, .error error) => (extended, .error error)

/-- Entries of a document in the order in which they are declared. -/
inductive Entry where
  | type (entry : String × Entries String)
  | table (entry : String × TableEntry)

/-- Converts and declares one entry of a document. -/
def declareEntry (catalog : Catalog) : Entry → Catalog × Except SchemaError Unit
  | .type entry => catalog.declareTypeEntry entry
  | .table entry => catalog.declareTableEntry entry

end Catalog

/-- Entries of a settled document: its types, then its tables. -/
def Document.entries (document : Document) : List Catalog.Entry :=
  document.settled.types.map .type ++ document.settled.tables.map .table

/-- Declares a document in a catalog, if its version is supported. -/
def Catalog.declareDocument (catalog : Catalog) (document : Document) :
    Catalog × Except SchemaError Unit :=
  if document.version = SchemaError.supportedVersion then
    Catalog.declareEach Catalog.declareEntry catalog document.entries
  else (catalog, .error (.unsupportedVersion document.version))

end CqlSchema
