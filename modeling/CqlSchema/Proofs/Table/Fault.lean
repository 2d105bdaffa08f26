import CqlSchema.Proofs.DataType.Nesting
import CqlSchema.Proofs.Outcome
import CqlSchema.Statement
/-!
# Faults of a table

A table can have several faults at once. `Faulty` says which of them is reported: bad nesting in
a column before anything else, a missing partition key next, and the order of a clustering
column last. Of several columns with the same fault the first is named.
-/

namespace CqlSchema.Table

open Outcome

/-- A clustering column without an order. -/
def LacksOrder (entry : String × Column) : Prop :=
  entry.2.role = .clustering .undefined

/-- A clustering column with an order. -/
def HasOrder (entry : String × Column) : Prop :=
  ∃ order : ClusteringOrder, entry.2.role = .clustering order ∧ order.isDefined = true

/-- Errors that keep a table from being created. -/
inductive Faulty (table : Table) : SchemaError → Prop where
  /-- The first column whose type nests badly is reported. -/
  | nesting {entry : String × Column} {after : Entries Column} :
      IsFirst (fun entry => entry.2.type.NestsBadly) table.columns entry after →
      Faulty table (.nonFrozenNesting table.name entry.1 entry.2.type)
  /-- No column nests badly, and none is in the partition key. -/
  | partition :
      (∀ entry ∈ table.columns, ¬ entry.2.type.NestsBadly) →
      (∀ entry ∈ table.columns, entry.2.role ≠ .partition) →
      Faulty table (.missingPartitionKey table.name)
  /-- No column nests badly and one is in the partition key; the first clustering column with an
  order that follows one without is reported, together with the first one without. -/
  | order {previous entry : String × Column} {middle after : Entries Column} :
      (∀ entry ∈ table.columns, ¬ entry.2.type.NestsBadly) →
      (∃ entry ∈ table.columns, entry.2.role = .partition) →
      IsFirst LacksOrder table.columns previous middle → IsFirst HasOrder middle entry after →
      Faulty table (.inconsistentClusteringOrder table.name entry.1 previous.1)

/-! ## Single checks -/

/-- A table has a partition key when one of its columns is in it. -/
theorem partitionKey_isEmpty_iff {table : Table} :
    table.partitionKey.isEmpty = true ↔ ∀ entry ∈ table.columns, entry.2.role ≠ .partition := by
  simp only [partitionKey, List.isEmpty_iff, List.map_eq_nil_iff, List.filter_eq_nil_iff,
    Column.isPartition_iff, ne_eq]

/-- A partition key that is not empty has a column. -/
theorem partitionKey_isEmpty_eq_false_iff {table : Table} :
    table.partitionKey.isEmpty = false ↔ ∃ entry ∈ table.columns, entry.2.role = .partition := by
  rw [← Bool.not_eq_true, partitionKey_isEmpty_iff]
  simp only [ne_eq, Classical.not_forall, Classical.not_not, exists_prop]

/-- The first column that nests badly is found. -/
theorem nestingFault?_eq_some_iff {table : Table} {entry : String × Column} :
    table.nestingFault? = some entry ↔
      ∃ after, IsFirst (fun entry => entry.2.type.NestsBadly) table.columns entry after := by
  rw [nestingFault?, find?_eq_some_iff_isFirst]
  simp only [DataType.isSome_nonFrozenNesting_iff]

/-- No column that nests badly is found where there is none. -/
theorem nestingFault?_eq_none_iff {table : Table} :
    table.nestingFault? = none ↔ ∀ entry ∈ table.columns, ¬ entry.2.type.NestsBadly := by
  rw [nestingFault?, List.find?_eq_none]
  simp only [DataType.isSome_nonFrozenNesting_iff]

/-! ## Orders of clustering columns -/

/-- A column has an order when it gives one that is defined. -/
theorem hasOrder_iff (entry : String × Column) :
    HasOrder entry ↔ ∃ order, entry.2.order? = some order ∧ order.isDefined = true := by
  simp only [HasOrder, Column.order?_eq_some_iff]

/-- A column lacks an order when it gives one that is undefined. -/
theorem lacksOrder_iff (entry : String × Column) :
    LacksOrder entry ↔ ∃ order, entry.2.order? = some order ∧ order.isDefined = false := by
  have undefined : ∀ order : ClusteringOrder, order = .undefined ↔ order.isDefined = false := by
    intro order
    cases order <;> simp [ClusteringOrder.isDefined]
  simp only [LacksOrder, Column.order?_eq_some_iff, ← undefined, exists_eq_right]

/-- The clustering key is made column by column. -/
theorem clusteringKey_cons (name : String) (entry : String × Column) (rest : Entries Column) :
    clusteringKey ⟨name, entry :: rest⟩ =
      (entry.2.order?.map (entry.1, ·)).toList ++ clusteringKey ⟨name, rest⟩ := by
  unfold clusteringKey
  rw [List.filterMap_cons]
  cases entry.2.order? <;> rfl

/-- After a column without an order, the first one with an order is found. -/
theorem orderFault?_since (name previous : String) {columns : Entries Column}
    {found : String × String} :
    orderFault? (some previous) (clusteringKey ⟨name, columns⟩) = some found ↔
      ∃ entry after, IsFirst HasOrder columns entry after ∧ found = (entry.1, previous) := by
  induction columns with
  | nil => simp [clusteringKey, orderFault?, IsFirst]
  | cons entry rest ih =>
    rw [clusteringKey_cons]
    simp only [isFirst_cons, hasOrder_iff entry]
    cases given : entry.2.order? with
    | none => simpa using ih
    | some order =>
      cases isDefined : order.isDefined with
      | false => simpa [orderFault?, isDefined] using ih
      | true =>
        simp only [Option.map_some, Option.toList_some, List.cons_append, orderFault?, isDefined]
        constructor
        · intro same
          cases same
          exact ⟨entry, rest, .inl ⟨⟨order, rfl, isDefined⟩, rfl, rfl⟩, rfl⟩
        · rintro ⟨later, after, ⟨-, rfl, -⟩ | ⟨notHere, -⟩, rfl⟩
          · rfl
          · exact absurd ⟨order, rfl, isDefined⟩ notHere

/-- The first column without an order is found, and after it the first one with an order. -/
theorem orderFault?_eq_some_iff (name : String) {columns : Entries Column}
    {found : String × String} :
    orderFault? none (clusteringKey ⟨name, columns⟩) = some found ↔
      ∃ previous middle entry after, IsFirst LacksOrder columns previous middle ∧
        IsFirst HasOrder middle entry after ∧ found = (entry.1, previous.1) := by
  induction columns with
  | nil => simp [clusteringKey, orderFault?, IsFirst]
  | cons entry rest ih =>
    rw [clusteringKey_cons]
    simp only [isFirst_cons, lacksOrder_iff entry]
    cases given : entry.2.order? with
    | none => simpa using ih
    | some order =>
      cases isDefined : order.isDefined with
      | true => simpa [orderFault?, isDefined] using ih
      | false =>
        simp only [Option.map_some, Option.toList_some, List.cons_append, List.nil_append,
          orderFault?, isDefined, Option.getD_none, orderFault?_since]
        constructor
        · rintro ⟨later, after, first, rfl⟩
          exact ⟨entry, rest, later, after, .inl ⟨⟨order, rfl, isDefined⟩, rfl, rfl⟩, first, rfl⟩
        · rintro ⟨previous, middle, later, after, ⟨-, rfl, rfl⟩ | ⟨notHere, -⟩, first, rfl⟩
          · exact ⟨later, after, first, rfl⟩
          · exact absurd ⟨order, rfl, isDefined⟩ notHere

/-! ## The reported fault -/

/-- The check of a table reports exactly the errors that its faults call for. -/
theorem fault?_eq_some_iff {table : Table} {error : SchemaError} :
    table.fault? = some error ↔ table.Faulty error := by
  unfold fault?
  constructor
  · intro reported
    split at reported
    · rename_i column found atColumn
      obtain ⟨after, first⟩ := nestingFault?_eq_some_iff.1 atColumn
      cases reported
      exact .nesting first
    · rename_i clean
      have nested := nestingFault?_eq_none_iff.1 clean
      split at reported
      · rename_i noKey
        cases reported
        exact .partition nested (partitionKey_isEmpty_iff.1 noKey)
      · rename_i key
        obtain ⟨found, atOrder, rfl⟩ := Option.map_eq_some_iff.1 reported
        obtain ⟨previous, middle, entry, after, lacks, has, rfl⟩ :=
          (orderFault?_eq_some_iff table.name).1 atOrder
        have present := partitionKey_isEmpty_eq_false_iff.1 (Bool.not_eq_true _ ▸ key)
        exact .order nested present lacks has
  · intro faulty
    cases faulty with
    | nesting first =>
      rw [nestingFault?_eq_some_iff.2 ⟨_, first⟩]
    | partition nested noKey =>
      rw [nestingFault?_eq_none_iff.2 nested]
      simp only [partitionKey_isEmpty_iff.2 noKey, ↓reduceIte]
    | order nested key lacks has =>
      have found := (orderFault?_eq_some_iff table.name).2 ⟨_, _, _, _, lacks, has, rfl⟩
      rw [nestingFault?_eq_none_iff.2 nested]
      simp only [partitionKey_isEmpty_eq_false_iff.2 key, Bool.false_eq_true, ↓reduceIte]
      exact Option.map_eq_some_iff.2 ⟨_, found, rfl⟩

/-- A table without a reported fault has none. -/
theorem fault?_eq_none_iff {table : Table} :
    table.fault? = none ↔ ∀ error, ¬ table.Faulty error := by
  rw [Option.eq_none_iff_forall_ne_some]
  simp only [ne_eq, fault?_eq_some_iff]

/-- A table without a reported fault has a partition key. -/
theorem partitionKey_ne_nil {table : Table} (clean : table.fault? = none) :
    table.partitionKey ≠ [] := by
  intro none
  unfold fault? at clean
  rw [none] at clean
  split at clean <;> cases clean

/-- A fault of a table is no error of its declaration. -/
theorem Faulty.isDeclaration {table : Table} {error : SchemaError} (faulty : table.Faulty error) :
    error.isDeclaration = false := by
  cases faulty with
  | nesting _ => rfl
  | partition _ _ => rfl
  | order _ _ _ _ => rfl

end CqlSchema.Table
