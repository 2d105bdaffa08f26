import CqlSchema.DataType.Signature
import CqlSchema.Text.Fold
/-!
# Columns

A column has a type and a role in the key of its table. Only columns outside the partition key
can be static, so the flag of a partition column is always cleared.
-/

namespace CqlSchema

/-- Order of a clustering column. -/
inductive ClusteringOrder where
  | ascending
  | descending
  | undefined
  deriving Repr, DecidableEq

namespace ClusteringOrder

/-- Keyword of an order in a statement; an undefined order has none. -/
def keyword? : ClusteringOrder → Option String
  | .ascending => some "ASC"
  | .descending => some "DESC"
  | .undefined => none

/-- Tells an order that was given from one that was not. -/
def isDefined : ClusteringOrder → Bool
  | .undefined => false
  | _ => true

/-- Order that a word spells, whatever the case of its letters. -/
def ofWord? (word : String) : Option ClusteringOrder :=
  if Text.sameFolded word "asc" then some .ascending
  else if Text.sameFolded word "desc" then some .descending
  else none

end ClusteringOrder

/-- Role of a column in the key of its table. -/
inductive Role where
  | partition
  | clustering (order : ClusteringOrder)
  | regular
  deriving Repr, DecidableEq

/-- Type, role and static flag of a column. -/
structure Column where
  type : DataType
  role : Role
  isStatic : Bool
  deriving Repr, DecidableEq

namespace Column

/-- Column of the partition key. -/
def partition (type : DataType) : Column :=
  ⟨type, .partition, false⟩

/-- Column of the clustering key, with its order. -/
def clustering (type : DataType) (order : ClusteringOrder) : Column :=
  ⟨type, .clustering order, false⟩

/-- Column outside the key. -/
def regular (type : DataType) : Column :=
  ⟨type, .regular, false⟩

/-- Recognises a column of the partition key. -/
def isPartition (column : Column) : Bool :=
  match column.role with
  | .partition => true
  | _ => false

/-- Recognises a column of the clustering key. -/
def isClustering (column : Column) : Bool :=
  match column.role with
  | .clustering _ => true
  | _ => false

/-- Order of a clustering column. -/
def order? (column : Column) : Option ClusteringOrder :=
  match column.role with
  | .clustering order => some order
  | _ => none

/-- Sets the static flag; a partition column never takes it. -/
def withStatic (isStatic : Bool) (column : Column) : Column :=
  { column with isStatic := isStatic && !column.isPartition }

/-- A column as it is written in a statement. -/
def definition (name : String) (column : Column) : String :=
  let plain := name ++ " " ++ column.type.signature
  if column.isStatic then plain ++ " static" else plain

/-- Columns of the partition key are those with that role. -/
theorem isPartition_iff {column : Column} :
    column.isPartition = true ↔ column.role = .partition := by
  unfold isPartition
  cases column.role <;> simp

/-- Columns give an order when they have the role of a clustering column. -/
theorem order?_eq_some_iff {column : Column} {order : ClusteringOrder} :
    column.order? = some order ↔ column.role = .clustering order := by
  unfold order?
  cases column.role <;> simp

/-- A partition column is not static, whatever flag it is offered. -/
theorem isStatic_withStatic_partition (isStatic : Bool) (type : DataType) :
    ((partition type).withStatic isStatic).isStatic = false := by
  simp [withStatic, partition, isPartition]

end Column

end CqlSchema
