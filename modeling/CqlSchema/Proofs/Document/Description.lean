import CqlSchema.Document.Declare
import CqlSchema.Proofs.Outcome
import CqlSchema.Proofs.DataType.RoundTrip
import CqlSchema.Proofs.TypeRegistry.Invariant
/-!
# Documents that describe declared entries

Everything that is declared can be written in a document: a type by its name and the signatures
of its fields, a table by its name and the details of its columns. Where no type that is
mentioned has a reserved name, each description is converted back into what it describes.
-/

namespace CqlSchema

open Outcome

/-! ## Descriptions -/

/-- Word for an order in a document; an undefined order has none. -/
def ClusteringOrder.word? : ClusteringOrder → Option String
  | .ascending => some "asc"
  | .descending => some "desc"
  | .undefined => none

/-- Word for a role in a document. -/
def Role.word : Role → String
  | .partition => "partition"
  | .clustering _ => "clustering"
  | .regular => "regular"

/-- Detailed description of a column, in which only an undefined order is left out. -/
def Column.detail (column : Column) : ColumnDetail where
  type := some column.type.signature
  key := some column.role.word
  order := column.order?.bind ClusteringOrder.word?
  isStatic := some column.isStatic
  unknown := []

/-- Description of a field. -/
def UserType.fieldEntry (field : String × DataType) : String × String :=
  (field.1, field.2.signature)

/-- Description of a type: its name and its fields. -/
def UserType.entry (type : UserType) : String × Entries String :=
  (type.name, type.fields.map fieldEntry)

/-- Description of a named column. -/
def Table.columnEntry (entry : String × Column) : String × ColumnEntry :=
  (entry.1, .detail entry.2.detail)

/-- Description of a table: its name, which nothing replaces, and its columns. -/
def Table.entry (table : Table) : String × TableEntry :=
  (table.name, ⟨none, table.columns.map columnEntry⟩)

/-- Document of version 1 that describes a catalog: its types in order, then its tables. -/
def Catalog.document (catalog : Catalog) : Document where
  version := 1
  types := catalog.types.types.map UserType.entry
  tables := catalog.tables.tables.map Table.entry

/-! ## Columns that are built -/

/-- Columns that the constructors and the static flag build. -/
inductive Column.IsBuilt : Column → Prop where
  | partition (type : DataType) : IsBuilt (Column.partition type)
  | clustering (type : DataType) (order : ClusteringOrder) : IsBuilt (Column.clustering type order)
  | regular (type : DataType) : IsBuilt (Column.regular type)
  | withStatic {column : Column} (isStatic : Bool) :
      IsBuilt column → IsBuilt (column.withStatic isStatic)

/-- No column of the partition key that was built is static. -/
theorem Column.IsBuilt.isStatic_eq_false {column : Column} (built : column.IsBuilt)
    (role : column.role = .partition) : column.isStatic = false := by
  induction built with
  | partition type => rfl
  | clustering type order => cases role
  | regular type => cases role
  | @withStatic column isStatic _ _ =>
    have inPartition : column.isPartition = true := Column.isPartition_iff.2 role
    simp only [Column.withStatic, inPartition, Bool.not_true, Bool.and_false]

/-- A built column is converted back from its description. -/
theorem Column.IsBuilt.finish_detail {column : Column} (built : column.IsBuilt) :
    column.detail.finish column.type = .ok column := by
  obtain ⟨type, role, isStatic⟩ := column
  cases role with
  | partition =>
    obtain rfl : isStatic = false := built.isStatic_eq_false rfl
    rfl
  | clustering order => cases order <;> cases isStatic <;> rfl
  | regular => cases isStatic <;> rfl

/-! ## Descriptions that are converted back -/

/-- A type whose handles all resolve in a registry, and none of which has a reserved name. -/
structure TypeRegistry.Admits (registry : TypeRegistry) (type : DataType) : Prop where
  /-- Every handle resolves. -/
  resolved : ∀ handle, type.Mentions handle →
    ∃ dependency, registry.resolve handle = some dependency
  /-- No handle has a reserved name. -/
  free : ∀ handle, type.Mentions handle → ¬ DataType.IsReserved handle.name

namespace Catalog

variable {catalog : Catalog}

/-- The signature of an admitted type spells it. -/
theorem spells_of_admits (laws : catalog.types.WellFormed) {type : DataType}
    (admitted : catalog.types.Admits type) :
    DataType.Spells catalog.types.lookup type.signature.toList type := by
  refine DataType.spells_signature fun handle mentioned => ?_
  exact laws.spellable (Option.isSome_iff_exists.2 (admitted.resolved handle mentioned))
    (admitted.free handle mentioned)

/-- A field of an admitted type is converted back from its description. -/
theorem field_fieldEntry (laws : catalog.types.WellFormed) (name : String)
    {field : String × DataType} (admitted : catalog.types.Admits field.2) :
    catalog.field name (UserType.fieldEntry field) = .ok field := by
  have read := DataType.parse_eq_ok_iff.2 (spells_of_admits laws admitted)
  rw [Catalog.field, UserType.fieldEntry, read]

/-- A built column of an admitted type is converted back from its description. -/
theorem namedColumn_columnEntry (laws : catalog.types.WellFormed) (table : String)
    {entry : String × Column} (admitted : catalog.types.Admits entry.2.type)
    (built : entry.2.IsBuilt) :
    catalog.namedColumn table (Table.columnEntry entry) = .ok entry := by
  have read := TypeRegistry.parse_eq_ok_iff.2 (spells_of_admits laws admitted)
  have converted : catalog.column table entry.1 (.detail entry.2.detail) = .ok entry.2 := by
    refine bind_eq_ok.2 ⟨entry.2.type.signature, rfl, bind_eq_ok.2 ⟨entry.2.type, read, ?_⟩⟩
    exact mapError_eq_ok.2 built.finish_detail
  exact map_eq_ok.2 ⟨entry.2, converted, rfl⟩

end Catalog

end CqlSchema
