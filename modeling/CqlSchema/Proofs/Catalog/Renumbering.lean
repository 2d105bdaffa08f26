import CqlSchema.Proofs.Document.Acceptance
import CqlSchema.Proofs.DataType.RoundTrip
import CqlSchema.Proofs.TypeRegistry.Renumbering
/-!
# Tables over reordered types

Tables that are declared over the same types in another order are the same but for the numbers of
their handles. Every step from a written table to a stored one treats renumbered columns alike: the
description is completed alike, names are checked alike, and a name that is taken stays taken. So
the declarations go the same way over both registries, entry by entry, and end with the same
outcome.
-/

namespace CqlSchema

open Outcome

/-- The same column with its type renumbered. -/
def Column.renumber (number : String → Nat) (column : Column) : Column :=
  { column with type := column.type.renumber number }

/-- The same table with its columns renumbered. -/
def Table.renumber (number : String → Nat) (table : Table) : Table where
  name := table.name
  columns := table.columns.map (Prod.map id (Column.renumber number))

/-- The same tables renumbered, with the names that are taken. -/
def TableRegistry.renumber (number : String → Nat) (registry : TableRegistry) : TableRegistry where
  tables := registry.tables.map (Table.renumber number)
  names := registry.names

variable {number : String → Nat}

/-! ## Columns -/

namespace ColumnDetail

/-- A renumbered type takes the role that the type takes. -/
theorem column_renumber (detail : ColumnDetail) (type : DataType) (order : ClusteringOrder) :
    detail.column (type.renumber number) order =
      (detail.column type order).map (Column.renumber number) := by
  unfold ColumnDetail.column
  dsimp only
  split
  · split <;> rfl
  · split
    · rfl
    · split <;> rfl

/-- A description is completed alike with a renumbered type. -/
theorem finish_renumber (detail : ColumnDetail) (type : DataType) :
    detail.finish (type.renumber number) = (detail.finish type).map (Column.renumber number) := by
  unfold finish
  cases detail.clusteringOrder with
  | error fault => rfl
  | ok order =>
    show (detail.column (type.renumber number) order >>= fun column => _) =
      (detail.column type order >>= fun column => _).map _
    rw [column_renumber]
    cases detail.column type order with
    | error fault => rfl
    | ok column =>
      show (if order.isDefined && !column.isClustering then _ else _) =
        (if order.isDefined && !column.isClustering then _ else _ : Except _ _).map _
      split <;> rfl

end ColumnDetail

/-! ## Stored tables -/

namespace TableRegistry

/-- Only names are checked, so renumbered columns are checked alike. -/
theorem columnFault?_renumber (earlier : Entries Column) (entry : String × Column) :
    columnFault? (earlier.map (Prod.map id (Column.renumber number)))
        (Prod.map id (Column.renumber number) entry) =
      columnFault? earlier entry := by
  unfold columnFault?
  rw [List.any_map]
  rfl

/-- A name is taken alike. -/
theorem reserve_renumber (registry : TableRegistry) (name : String) :
    (registry.renumber number).reserve name =
      Prod.map (TableRegistry.renumber number) id (registry.reserve name) := by
  have sameNames : (registry.renumber number).hasTable name = registry.hasTable name := rfl
  unfold reserve
  rw [sameNames]
  split <;> rfl

/-- Renumbered columns are declared as the renumbered table, and refused alike. -/
theorem declare_renumber (registry : TableRegistry) (typeName : String) (rename : Option String)
    (columns : List (String × Column)) :
    (registry.renumber number).declare
        ⟨typeName, rename, columns.map (Prod.map id (Column.renumber number))⟩ =
      Prod.map (TableRegistry.renumber number) (Except.map (Table.renumber number))
        (registry.declare ⟨typeName, rename, columns⟩) := by
  have collected := Entries.collect_map (@columnFault?_renumber number) [] columns
  rw [List.map_nil] at collected
  cases valid : isIdentifier (rename.getD typeName) with
  | false => simp [declare, TableDeclaration.name, valid, Except.map]
  | true =>
    simp only [declare, TableDeclaration.name, valid, collected, reserve_renumber]
    cases Entries.collect columnFault? [] columns with
    | error fault => rfl
    | ok stored =>
      rcases registry.reserve (rename.getD typeName) with ⟨reserved, isFree⟩
      cases isFree with
      | false => rfl
      | true => simp [TableRegistry.renumber, Table.renumber, Except.map]

end TableRegistry

namespace Catalog

/-! ## Reordered catalogs -/

/-- Two catalogs have the same types in any two orders, and the same tables in the same order, up to
the numbers of handles. -/
structure Reordered (first second : Catalog) : Prop where
  /-- The types are reordered. -/
  types : first.types.Reordered second.types
  /-- The tables are renumbered, and the same names are taken. -/
  tables : second.tables = first.tables.renumber second.types.number

namespace Reordered

variable {first second : Catalog}

/-- An entry of a table is converted to the renumbered column, and refused alike. -/
theorem namedColumn (reordered : first.Reordered second) (table : String)
    (entry : String × ColumnEntry) :
    second.namedColumn table entry = (first.namedColumn table entry).map
      (Prod.map id (Column.renumber second.types.number)) := by
  unfold Catalog.namedColumn Catalog.column
  dsimp only
  cases entry.2.toDetail.signature with
  | error fault => rfl
  | ok text =>
    show Except.map _ (second.types.parse text >>= fun type => _) =
      (Except.map _ (first.types.parse text >>= fun type => _)).map _
    rw [TypeRegistry.parse_renumber reordered.types.mem_names]
    cases first.types.parse text with
    | error error => rfl
    | ok type =>
      show Except.map _ ((entry.2.toDetail.finish (type.renumber _)).mapError _) =
        (Except.map _ ((entry.2.toDetail.finish type).mapError _)).map _
      rw [ColumnDetail.finish_renumber]
      cases entry.2.toDetail.finish type with
      | error fault => rfl
      | ok column => rfl

/-- Columns that mention only types of their catalog are declared as the renumbered table, and
refused alike. -/
theorem addTable (reordered : first.Reordered second) (typeName : String) (rename : Option String)
    {columns : List (String × Column)}
    (own : ∀ entry ∈ columns, ∀ handle, entry.2.type.Mentions handle →
      ∃ type, first.types.resolve handle = some type) :
    (first.addTable ⟨typeName, rename, columns⟩).1.Reordered
        (second.addTable ⟨typeName, rename,
          columns.map (Prod.map id (Column.renumber second.types.number))⟩).1 ∧
      (second.addTable ⟨typeName, rename,
          columns.map (Prod.map id (Column.renumber second.types.number))⟩).2 =
        (first.addTable ⟨typeName, rename, columns⟩).2.map
          (Table.renumber second.types.number) := by
  have otherOwn : ∀ entry ∈ columns.map (Prod.map id (Column.renumber second.types.number)),
      ∀ handle, entry.2.type.Mentions handle →
        ∃ type, second.types.resolve handle = some type := by
    intro entry member handle mentioned
    obtain ⟨source, inside, rfl⟩ := List.mem_map.1 member
    obtain ⟨other, otherMentioned, rfl⟩ := DataType.mentions_renumber_iff.1 mentioned
    obtain ⟨type, found⟩ := own source inside other otherMentioned
    exact ⟨_, reordered.types.resolve found⟩
  unfold Catalog.addTable
  rw [foreignColumn?_eq_none_iff.2 own, foreignColumn?_eq_none_iff.2 otherOwn, reordered.tables,
    TableRegistry.declare_renumber]
  exact ⟨⟨reordered.types, rfl⟩, rfl⟩

/-- A written table is declared alike over both registries. -/
theorem declareTableEntry (reordered : first.Reordered second) (entry : String × TableEntry) :
    (first.declareTableEntry entry).1.Reordered (second.declareTableEntry entry).1 ∧
      (second.declareTableEntry entry).2 = (first.declareTableEntry entry).2 := by
  unfold Catalog.declareTableEntry
  rw [mapM_map (reordered.namedColumn (entry.2.name.getD entry.1))]
  cases converted : entry.2.columns.mapM
      (first.namedColumn (entry.2.name.getD entry.1)) with
  | error error => exact ⟨reordered, rfl⟩
  | ok columns =>
    -- The types of converted columns were read, so they mention only types of the catalog.
    have own : ∀ column ∈ columns, ∀ handle, column.2.type.Mentions handle →
        ∃ type, first.types.resolve handle = some type := by
      refine forall_of_forall₂ (mapM_eq_ok_iff_forall₂.1 converted).flip ?_
      intro column written _ single handle mentioned
      obtain ⟨text, -, read⟩ := (namedColumn_eq_ok.1 single).type_read
      exact reordered.types.firstLaws.resolve_of_parse read mentioned
    obtain ⟨extended, sameOutcome⟩ := reordered.addTable entry.1 entry.2.name own
    refine ⟨extended, ?_⟩
    dsimp only
    show (second.addTable _).2.map _ = (first.addTable _).2.map _
    rw [sameOutcome]
    cases (first.addTable ⟨entry.1, entry.2.name, columns⟩).2 with
    | error error => rfl
    | ok table => rfl

/-- Written tables in a row are declared alike over both registries, up to the first that is
refused. -/
theorem declareEach_tables (reordered : first.Reordered second) (entries : Entries TableEntry) :
    (declareEach declareEntry first (entries.map .table)).1.Reordered
        (declareEach declareEntry second (entries.map .table)).1 ∧
      (declareEach declareEntry second (entries.map .table)).2 =
        (declareEach declareEntry first (entries.map .table)).2 := by
  induction entries generalizing first second with
  | nil => exact ⟨reordered, rfl⟩
  | cons entry rest ih =>
    obtain ⟨extended, sameOutcome⟩ := reordered.declareTableEntry entry
    rcases step : first.declareTableEntry entry with ⟨after, outcome⟩
    rcases otherStep : second.declareTableEntry entry with ⟨other, otherOutcome⟩
    rw [step, otherStep] at extended sameOutcome
    obtain rfl : otherOutcome = outcome := sameOutcome
    simp only [List.map_cons, declareEach, declareEntry, step, otherStep]
    cases otherOutcome with
    | error error => exact ⟨extended, rfl⟩
    | ok nothing => exact ih extended

end Reordered

end Catalog

end CqlSchema
