import CqlSchema.Proofs.Catalog.Renumbering
import CqlSchema.Proofs.Plan.Keyspace
/-!
# Plans of reordered types

Numbers of handles tell types apart while a plan is made and are written nowhere. Over the same
types in another order the same tables are faulty, the same types are required, and every statement
has the same text. Only the order of the types shows, which is the order in which they are created.
-/

namespace CqlSchema

open Outcome

/-- The same error with the handles in it renumbered. -/
def SchemaError.renumber (number : String → Nat) : SchemaError → SchemaError
  | .nonFrozenNesting table column type => .nonFrozenNesting table column (type.renumber number)
  | error => error

variable {number : String → Nat}

/-- The code of an error tells nothing of numbers. -/
@[simp] theorem SchemaError.code_renumber (error : SchemaError) :
    (error.renumber number).code = error.code := by
  cases error <;> rfl

/-- The wording of an error tells nothing of numbers. -/
@[simp] theorem SchemaError.message_renumber (explain : String → String) (error : SchemaError) :
    (error.renumber number).message explain = error.message explain := by
  cases error with
  | nonFrozenNesting table column type =>
    have written : ∀ type : DataType, message explain (.nonFrozenNesting table column type) =
        s!"column '{column}' of table '{table}' nests a non-frozen type inside a collection: " ++
          type.signature := fun _ => rfl
    rw [SchemaError.renumber, written, written, DataType.signature_renumber]
  | _ => rfl

/-! ## Renumbered tables -/

namespace Table

/-- The handles of a table are renumbered in place. -/
@[simp] theorem userTypes_renumber (table : Table) :
    (table.renumber number).userTypes = table.userTypes.map (Handle.renumber number) := by
  simp [userTypes, renumber, Column.renumber, List.flatMap_map, List.map_flatMap]

/-- The columns of the partition key stay. -/
@[simp] theorem partitionKey_renumber (table : Table) :
    (table.renumber number).partitionKey = table.partitionKey := by
  simp [partitionKey, renumber, Column.renumber, Column.isPartition, List.filter_map,
    Function.comp_def]

/-- The columns of the clustering key stay, with their orders. -/
@[simp] theorem clusteringKey_renumber (table : Table) :
    (table.renumber number).clusteringKey = table.clusteringKey := by
  simp [clusteringKey, renumber, Column.renumber, Column.order?, List.filterMap_map,
    Function.comp_def]

/-- Columns are written alike. -/
@[simp] theorem columnTexts_renumber (table : Table) :
    (table.renumber number).columnTexts = table.columnTexts := by
  simp [columnTexts, renumber, Column.renumber, Column.definition, Function.comp_def]

/-- The primary key of a table is written alike. -/
@[simp] theorem primaryKeyText_renumber (table : Table) :
    (table.renumber number).primaryKeyText = table.primaryKeyText := by
  simp only [primaryKeyText, partitionText, partitionKey_renumber, clusteringKey_renumber]

/-- The clustering order of a table is written alike. -/
@[simp] theorem orderText_renumber (table : Table) :
    (table.renumber number).orderText = table.orderText := by
  simp only [orderText, orderTexts, clusteringKey_renumber]

/-- Bad nesting is found in the same column. -/
theorem nestingFault?_renumber (table : Table) :
    (table.renumber number).nestingFault? =
      table.nestingFault?.map (Prod.map id (Column.renumber number)) := by
  have alike : ∀ entry : String × Column,
      (Prod.map id (Column.renumber number) entry).2.type.nonFrozenNesting.isSome =
        entry.2.type.nonFrozenNesting.isSome := by
    intro entry
    simp [Column.renumber]
  rw [nestingFault?, renumber, List.find?_map]
  exact congrArg (fun test => (table.columns.find? test).map _) (funext alike)

/-- A renumbered table has the same fault. -/
theorem fault?_renumber (table : Table) :
    (table.renumber number).fault? = table.fault?.map (SchemaError.renumber number) := by
  unfold fault?
  rw [nestingFault?_renumber, partitionKey_renumber, clusteringKey_renumber]
  cases table.nestingFault? with
  | some entry => rfl
  | none =>
    show (if table.partitionKey.isEmpty then _ else _) =
      (if table.partitionKey.isEmpty then _ else _ : Option SchemaError).map _
    split
    · rfl
    · cases orderFault? none table.clusteringKey <;> rfl

end Table

namespace Statement

/-- The statement of a type tells nothing of numbers. -/
@[simp] theorem text_createType_renumber (keyspace : String) (type : UserType) :
    (createType keyspace (type.renumber number)).text = (createType keyspace type).text := by
  simp only [text_eq, opening, Statement.keyspace, name, body, UserType.name_renumber,
    UserType.fieldTexts_renumber]

/-- The statement of a table tells nothing of numbers. -/
@[simp] theorem text_createTable_renumber (keyspace : String) (table : Table) :
    (createTable keyspace (table.renumber number)).text = (createTable keyspace table).text := by
  have sameName : (table.renumber number).name = table.name := rfl
  simp only [text_eq, opening, Statement.keyspace, name, body, sameName, Table.columnTexts_renumber,
    Table.primaryKeyText_renumber, Table.orderText_renumber]

end Statement

namespace Catalog.Reordered

variable {first second : Catalog}

/-! ## Plans -/

/-- What is required over the same types in another order is the same up to numbers: the same fault,
or the same types. -/
theorem requiredTypes (reordered : first.Reordered second) (laws : first.WellFormed) :
    (∃ error, CqlSchema.requiredTypes first.types first.tables.tables = .error error ∧
      CqlSchema.requiredTypes second.types second.tables.tables =
        .error (error.renumber second.types.number)) ∨
    ∃ types others, CqlSchema.requiredTypes first.types first.tables.tables = .ok types ∧
      CqlSchema.requiredTypes second.types second.tables.tables = .ok others ∧
      (types.map (UserType.renumber second.types.number)).Perm others := by
  have faults : second.tables.tables.findSome? Table.fault? =
      (first.tables.tables.findSome? Table.fault?).map
        (SchemaError.renumber second.types.number) := by
    rw [reordered.tables, TableRegistry.renumber, List.findSome?_map, List.map_findSome?]
    exact congrArg (List.findSome? · _) (funext fun table => table.fault?_renumber)
  have handles : second.tables.tables.flatMap Table.userTypes =
      (first.tables.tables.flatMap Table.userTypes).map (Handle.renumber second.types.number) := by
    simp [reordered.tables, TableRegistry.renumber, List.flatMap_map, List.map_flatMap]
  have own : ∀ handle ∈ first.tables.tables.flatMap Table.userTypes,
      ∃ type, first.types.resolve handle = some type := by
    intro handle member
    obtain ⟨table, inside, entry, column, mentioned⟩ := Table.mem_flatMap_userTypes_iff.1 member
    exact laws.resolved table inside entry column handle mentioned
  unfold CqlSchema.requiredTypes
  rw [faults, handles]
  cases first.tables.tables.findSome? Table.fault? with
  | some error => exact .inl ⟨error, rfl, rfl⟩
  | none => exact .inr (reordered.types.exists_needed own)

/-- Over the same types in another order a catalog has the same plan but for the order of the types,
or it is refused with the same error. -/
theorem plan (reordered : first.Reordered second) (laws : first.WellFormed) (keyspace : String) :
    (∃ error, first.plan keyspace = .error error ∧
      second.plan keyspace = .error (error.renumber second.types.number)) ∨
    ∃ plan other, first.plan keyspace = .ok plan ∧ second.plan keyspace = .ok other ∧
      other.tables = plan.tables ∧ plan.types.Perm other.types := by
  cases valid : isIdentifier keyspace with
  | false =>
    exact .inl ⟨.invalidName keyspace .keyspace, Plan.ofTables_of_invalid valid _ _,
      Plan.ofTables_of_invalid valid _ _⟩
  | true =>
    unfold Catalog.plan
    rw [Plan.ofTables_eq valid, Plan.ofTables_eq valid]
    rcases reordered.requiredTypes laws with ⟨error, refused, otherRefused⟩ |
      ⟨types, others, found, otherFound, same⟩
    · rw [refused, otherRefused]
      exact .inl ⟨error, rfl, rfl⟩
    · rw [found, otherFound]
      refine .inr ⟨_, _, rfl, rfl, ?_, ?_⟩
      · simp [Plan.written, reordered.tables, TableRegistry.renumber, Function.comp_def]
      · have texts := same.map fun type => (Statement.createType keyspace type).text
        rw [List.map_map] at texts
        simpa [Plan.written, Function.comp_def] using texts

end Catalog.Reordered

end CqlSchema
