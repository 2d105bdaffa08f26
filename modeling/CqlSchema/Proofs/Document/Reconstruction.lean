import CqlSchema.Proofs.Document.Acceptance
import CqlSchema.Proofs.Document.Description
/-!
# Catalogs that their documents build again

A catalog that was declared entry by entry, with built columns, is built again from the document
that describes it. The document declares all types before all tables, so its run goes through
the first types of the catalog, then through all types with the first tables; the laws of the
whole catalog hold of each of these parts, and the next entry can be declared there.
-/

namespace CqlSchema

/-! ## Settled documents -/

/-- A document is settled when its mappings are, the inner ones included. -/
theorem Document.settled_eq_self {document : Document}
    (types : Entries.settle document.types = document.types)
    (fields : ∀ entry ∈ document.types, Entries.settle entry.2 = entry.2)
    (tables : Entries.settle document.tables = document.tables)
    (columns : ∀ entry ∈ document.tables, Entries.settle entry.2.columns = entry.2.columns) :
    document.settled = document := by
  have settledTypes : document.settled.types = Entries.settle document.types := by
    refine congrArg Entries.settle ((List.map_congr_left ?_).trans (List.map_id _))
    intro entry member
    exact Prod.ext rfl (fields entry member)
  have settledTables : document.settled.tables = Entries.settle document.tables := by
    refine congrArg Entries.settle ((List.map_congr_left ?_).trans (List.map_id _))
    intro entry member
    exact Prod.ext rfl (congrArg (TableEntry.mk entry.2.name) (columns entry member))
  rw [types] at settledTypes
  rw [tables] at settledTables
  exact congrArg₂ (Document.mk document.version) settledTypes settledTables

/-! ## Catalogs that are declared directly -/

namespace Catalog

/-- Calls that declare a type, or a table whose columns are built. -/
inductive Call.IsDirect : Call → Prop where
  | declareType (name : String) (fields : List (String × DataType)) :
      IsDirect (.declareType name fields)
  | declareTable {declaration : TableDeclaration} :
      (∀ entry ∈ declaration.columns, entry.2.IsBuilt) → IsDirect (.declareTable declaration)

/-- Catalogs that direct calls reach from the empty one. -/
def DirectlyReachable (catalog : Catalog) : Prop :=
  ∃ calls : List Call, (∀ call ∈ calls, call.IsDirect) ∧ empty.performAll calls = catalog

/-- All columns of a catalog are built. -/
def HasBuiltColumns (catalog : Catalog) : Prop :=
  ∀ table ∈ catalog.tables.tables, ∀ entry ∈ table.columns, entry.2.IsBuilt

/-- Direct calls reach only reachable catalogs. -/
theorem DirectlyReachable.reachable {catalog : Catalog} (direct : catalog.DirectlyReachable) :
    catalog.Reachable := by
  obtain ⟨calls, -, reached⟩ := direct
  exact ⟨calls, reached⟩

/-- A direct call adds only built columns. -/
theorem HasBuiltColumns.perform {catalog : Catalog} (built : catalog.HasBuiltColumns)
    {call : Call} (direct : call.IsDirect) : (catalog.perform call).HasBuiltColumns := by
  cases direct with
  | declareType name fields => exact built
  | @declareTable declaration columns =>
    rcases shape : catalog.addTable declaration with ⟨after, outcome⟩
    rw [Catalog.perform, shape]
    cases outcome with
    | error refusal =>
      rw [addTable_eq_error shape]
      exact built
    | ok table =>
      obtain ⟨extended, -, -⟩ := TableRegistry.declare_eq_ok (addTable_eq_ok shape).1
      intro table member
      rw [extended] at member
      rcases List.mem_append.1 member with old | new
      · exact built table old
      · obtain rfl := List.mem_singleton.1 new
        exact columns

/-- Direct calls, one after the other, add only built columns. -/
theorem HasBuiltColumns.performAll {catalog : Catalog} (built : catalog.HasBuiltColumns)
    {calls : List Call} (direct : ∀ call ∈ calls, call.IsDirect) :
    (catalog.performAll calls).HasBuiltColumns := by
  induction calls generalizing catalog with
  | nil => exact built
  | cons call rest ih =>
    obtain ⟨first, others⟩ := List.forall_mem_cons.1 direct
    exact ih (built.perform first) others

/-- All columns of a catalog that is declared directly are built. -/
theorem DirectlyReachable.hasBuiltColumns {catalog : Catalog}
    (direct : catalog.DirectlyReachable) : catalog.HasBuiltColumns := by
  obtain ⟨calls, allDirect, rfl⟩ := direct
  have start : empty.HasBuiltColumns := by
    intro table member
    cases member
  exact start.performAll allDirect

end Catalog

/-! ## Names in the order in which they are taken -/

/-- Registry of tables that were declared one after the other. -/
def TableRegistry.ofTables (tables : List Table) : TableRegistry :=
  ⟨tables, (tables.map fun table => Text.fold table.name).reverse⟩

/-- The names of a reachable catalog are those of its tables, the last first. -/
theorem Catalog.Reachable.tables_eq_ofTables {catalog : Catalog} (reachable : catalog.Reachable) :
    catalog.tables = .ofTables catalog.tables.tables := by
  have kept : Kept fun catalog => catalog.tables = .ofTables catalog.tables.tables := by
    constructor
    · intro before name fields same
      exact same
    · intro before declaration same
      rcases shape : before.addTable declaration with ⟨after, outcome⟩
      cases outcome with
      | error refusal =>
        rw [addTable_eq_error shape]
        exact same
      | ok table =>
        obtain ⟨extended, taken, -⟩ := TableRegistry.declare_eq_ok (addTable_eq_ok shape).1
        have names : after.tables.names =
            (TableRegistry.ofTables after.tables.tables).names := by
          rw [taken, extended, same]
          simp [TableRegistry.ofTables]
        exact congrArg (TableRegistry.mk after.tables.tables) names
  exact kept.of_reachable rfl reachable

/-! ## The first entries of a registry -/

namespace TypeRegistry

/-- Handles with a small number resolve among the first types as they do among all. -/
theorem resolve_of_append {first later : List UserType} {handle : Handle} {type : UserType}
    (found : resolve ⟨first ++ later⟩ handle = some type) (early : handle.index < first.length) :
    resolve ⟨first⟩ handle = some type := by
  rw [resolve_eq_some_iff] at found ⊢
  rwa [List.getElem?_append_left early] at found

/-- What a field of one of the first types mentions is among the types before it. -/
theorem WellFormed.resolve_field {first later : List UserType} {type : UserType}
    (laws : WellFormed ⟨first ++ later⟩) (member : type ∈ first ++ later)
    (bound : type.index ≤ first.length) {field : String × DataType} (inside : field ∈ type.fields)
    {handle : Handle} (mentioned : field.2.Mentions handle) :
    ∃ dependency, resolve ⟨first⟩ handle = some dependency ∧ dependency.index < type.index := by
  obtain ⟨dependency, found, smaller⟩ := laws.earlier type member field inside handle mentioned
  have sameIndex := laws.index_eq _ _ (resolve_eq_some_iff.1 found).1
  exact ⟨dependency, resolve_of_append found (by omega), smaller⟩

/-- The first types of a well-formed registry are a well-formed registry. -/
theorem WellFormed.first {first later : List UserType} (laws : WellFormed ⟨first ++ later⟩) :
    WellFormed ⟨first⟩ where
  index_eq position type place := by
    refine laws.index_eq position type ?_
    rw [List.getElem?_append_left (List.getElem?_eq_some_iff.1 place).1]
    exact place
  identifiers type member := laws.identifiers type (List.mem_append_left _ member)
  distinct := by
    have distinct := laws.distinct
    rw [List.map_append] at distinct
    exact (List.nodup_append.1 distinct).1
  wellNamed type member := laws.wellNamed type (List.mem_append_left _ member)
  nonempty type member := laws.nonempty type (List.mem_append_left _ member)
  earlier type member field inside handle mentioned := by
    obtain ⟨position, place⟩ := List.mem_iff_getElem?.1 member
    have bound : position < first.length := (List.getElem?_eq_some_iff.1 place).1
    have index := laws.index_eq position type (by rw [List.getElem?_append_left bound]; exact place)
    exact laws.resolve_field (List.mem_append_left _ member) (by omega) inside mentioned

/-- The type after the first ones has their number as its own. -/
theorem WellFormed.index_next {first later : List UserType} {type : UserType}
    (laws : WellFormed ⟨first ++ type :: later⟩) : type.index = first.length :=
  laws.index_eq first.length type (by simp)

/-- The type after the first ones can be declared when they are. -/
theorem WellFormed.declarable_next {first later : List UserType} {type : UserType}
    (laws : WellFormed ⟨first ++ type :: later⟩) : Declarable ⟨first⟩ type.name type.fields where
  identifier := laws.identifiers type (List.mem_append_right _ List.mem_cons_self)
  new other member := by
    have distinct := laws.distinct
    rw [List.map_append, List.nodup_append] at distinct
    exact distinct.2.2 _ (List.mem_map_of_mem member) _ (List.mem_map_of_mem List.mem_cons_self)
  wellNamed := laws.wellNamed type (List.mem_append_right _ List.mem_cons_self)
  nonempty := laws.nonempty type (List.mem_append_right _ List.mem_cons_self)
  resolved field inside handle mentioned := by
    obtain ⟨dependency, found, -⟩ :=
      laws.resolve_field (List.mem_append_right _ List.mem_cons_self) (Nat.le_of_eq laws.index_next)
        inside mentioned
    exact ⟨dependency, found⟩

/-- Declaring the type after the first ones adds it to them. -/
theorem WellFormed.declare_next {first later : List UserType} {type : UserType}
    (laws : WellFormed ⟨first ++ type :: later⟩) :
    TypeRegistry.declare ⟨first⟩ type.name type.fields =
      (⟨first ++ [type]⟩, .ok type.handle) := by
  have whole : (⟨size ⟨first⟩, type.name, type.fields⟩ : UserType) = type := by
    rw [size, ← laws.index_next]
  have issued : (⟨size ⟨first⟩, type.name⟩ : Handle) = type.handle := congrArg UserType.handle whole
  rw [laws.declarable_next.declare_eq, whole, issued]

end TypeRegistry

namespace TableRegistry

/-- The table after the first ones can be declared when they are. -/
theorem WellFormed.declarable_next {first later : List Table} {table : Table}
    (laws : WellFormed (ofTables (first ++ table :: later))) :
    Declarable (ofTables first) ⟨table.name, none, table.columns⟩ where
  identifier := laws.identifiers table (List.mem_append_right _ List.mem_cons_self)
  wellNamed := laws.wellNamed table (List.mem_append_right _ List.mem_cons_self)
  free := by
    intro taken
    obtain ⟨other, member, same⟩ := List.mem_map.1 (List.mem_reverse.1 taken)
    have distinct : ((first ++ table :: later).map fun table => Text.fold table.name).Nodup :=
      laws.distinct
    rw [List.map_append, List.nodup_append] at distinct
    exact distinct.2.2 _ (List.mem_map_of_mem member) _ (List.mem_map_of_mem List.mem_cons_self)
      same

/-- Declaring the table after the first ones adds it to them. -/
theorem WellFormed.declare_next {first later : List Table} {table : Table}
    (laws : WellFormed (ofTables (first ++ table :: later))) :
    TableRegistry.declare (ofTables first) ⟨table.name, none, table.columns⟩ =
      (ofTables (first ++ [table]), .ok table) := by
  have names : Text.fold table.name :: (ofTables first).names =
      (ofTables (first ++ [table])).names := by
    simp [ofTables]
  rw [laws.declarable_next.declare_eq]
  exact congrArg (fun names => (TableRegistry.mk (first ++ [table]) names, Except.ok table)) names

end TableRegistry

namespace Catalog

/-! ## Single entries -/

/-- The entry for the type after the first ones declares it. -/
theorem declareTypeEntry_entry {first later : List UserType} {type : UserType}
    (laws : TypeRegistry.WellFormed ⟨first ++ type :: later⟩) (tables : TableRegistry)
    (free : ∀ field ∈ type.fields, ∀ handle, field.2.Mentions handle →
      ¬ DataType.IsReserved handle.name) :
    declareTypeEntry ⟨⟨first⟩, tables⟩ type.entry = (⟨⟨first ++ [type]⟩, tables⟩, .ok ()) := by
  have fields : (type.fields.map UserType.fieldEntry).mapM
      (Catalog.field ⟨⟨first⟩, tables⟩ type.name) = .ok type.fields := by
    refine Outcome.mapM_map_eq_ok fun field member => ?_
    exact field_fieldEntry laws.first type.name
      ⟨laws.declarable_next.resolved field member, free field member⟩
  have added : addType ⟨⟨first⟩, tables⟩ type.name type.fields =
      (⟨⟨first ++ [type]⟩, tables⟩, .ok type.handle) := by
    rw [addType, laws.declare_next]
  exact declareTypeEntry_eq_ok.2 ⟨_, _, fields, added⟩

/-- The entry for the table after the first ones declares it. -/
theorem declareTableEntry_entry {types : TypeRegistry} (typeLaws : types.WellFormed)
    {first later : List Table} {table : Table}
    (laws : TableRegistry.WellFormed (.ofTables (first ++ table :: later)))
    (admitted : ∀ entry ∈ table.columns, types.Admits entry.2.type)
    (built : ∀ entry ∈ table.columns, entry.2.IsBuilt) :
    declareTableEntry ⟨types, .ofTables first⟩ table.entry =
      (⟨types, .ofTables (first ++ [table])⟩, .ok ()) := by
  have columns : (table.columns.map Table.columnEntry).mapM
      (namedColumn ⟨types, .ofTables first⟩ table.name) = .ok table.columns := by
    refine Outcome.mapM_map_eq_ok fun entry member => ?_
    exact namedColumn_columnEntry typeLaws table.name (admitted entry member) (built entry member)
  have added : addTable ⟨types, .ofTables first⟩ ⟨table.name, none, table.columns⟩ =
      (⟨types, .ofTables (first ++ [table])⟩, .ok table) :=
    addTable_of_declare laws.declare_next fun entry member => (admitted entry member).resolved
  exact declareTableEntry_eq_ok.2 ⟨_, _, columns, added⟩

/-! ## Runs of entries -/

/-- Entries for the types after the first ones declare all of them; other entries follow. -/
theorem declareEach_types {first rest : List UserType}
    (laws : TypeRegistry.WellFormed ⟨first ++ rest⟩) (tables : TableRegistry)
    (free : ∀ type ∈ rest, ∀ field ∈ type.fields, ∀ handle, field.2.Mentions handle →
      ¬ DataType.IsReserved handle.name) (others : List Entry) :
    declareEach declareEntry ⟨⟨first⟩, tables⟩
        ((rest.map UserType.entry).map Entry.type ++ others) =
      declareEach declareEntry ⟨⟨first ++ rest⟩, tables⟩ others := by
  induction rest generalizing first with
  | nil => rw [List.append_nil]; rfl
  | cons type rest ih =>
    obtain ⟨typeFree, restFree⟩ := List.forall_mem_cons.1 free
    have declared : declareEntry ⟨⟨first⟩, tables⟩ (.type type.entry) =
        (⟨⟨first ++ [type]⟩, tables⟩, .ok ()) := declareTypeEntry_entry laws tables typeFree
    rw [List.append_cons] at laws ⊢
    rw [← ih laws restFree, List.map_cons, List.map_cons, List.cons_append, declareEach, declared]

/-- Entries for the tables after the first ones declare all of them. -/
theorem declareEach_tables {types : TypeRegistry} (typeLaws : types.WellFormed)
    {first rest : List Table} (laws : TableRegistry.WellFormed (.ofTables (first ++ rest)))
    (admitted : ∀ table ∈ rest, ∀ entry ∈ table.columns, types.Admits entry.2.type)
    (built : ∀ table ∈ rest, ∀ entry ∈ table.columns, entry.2.IsBuilt) :
    declareEach declareEntry ⟨types, .ofTables first⟩ ((rest.map Table.entry).map Entry.table) =
      (⟨types, .ofTables (first ++ rest)⟩, .ok ()) := by
  induction rest generalizing first with
  | nil => rw [List.append_nil]; rfl
  | cons table rest ih =>
    obtain ⟨tableAdmitted, restAdmitted⟩ := List.forall_mem_cons.1 admitted
    obtain ⟨tableBuilt, restBuilt⟩ := List.forall_mem_cons.1 built
    have declared : declareEntry ⟨types, .ofTables first⟩ (.table table.entry) =
        (⟨types, .ofTables (first ++ [table])⟩, .ok ()) :=
      declareTableEntry_entry typeLaws laws tableAdmitted tableBuilt
    rw [List.append_cons] at laws ⊢
    rw [← ih laws restAdmitted restBuilt, List.map_cons, List.map_cons, declareEach, declared]

/-! ## Whole catalogs -/

/-- No key of a document that describes a well-formed catalog is repeated, so it is settled. -/
theorem WellFormed.settled_document {catalog : Catalog} (laws : catalog.WellFormed) :
    catalog.document.settled = catalog.document := by
  refine Document.settled_eq_self (Entries.settle_described UserType.entry laws.types.distinct)
    ?_ (Entries.settle_described Table.entry laws.tables.distinct) ?_
  · intro entry member
    obtain ⟨type, inTypes, rfl⟩ := List.mem_map.1 member
    exact Entries.settle_described UserType.fieldEntry (laws.types.wellNamed type inTypes).distinct
  · intro entry member
    obtain ⟨table, inTables, rfl⟩ := List.mem_map.1 member
    exact Entries.settle_described Table.columnEntry (laws.tables.wellNamed table inTables).distinct

/-- A catalog that is declared directly, and that mentions no type with a reserved name, is
exactly what its document declares in an empty catalog. -/
theorem declareDocument_document {catalog : Catalog} (direct : catalog.DirectlyReachable)
    (freeFields : ∀ type ∈ catalog.types.types, ∀ field ∈ type.fields, ∀ handle,
      field.2.Mentions handle → ¬ DataType.IsReserved handle.name)
    (freeColumns : ∀ table ∈ catalog.tables.tables, ∀ entry ∈ table.columns, ∀ handle,
      entry.2.type.Mentions handle → ¬ DataType.IsReserved handle.name) :
    empty.declareDocument catalog.document = (catalog, .ok ()) := by
  have laws := direct.reachable.wellFormed
  have tables := direct.reachable.tables_eq_ofTables
  have tableLaws : TableRegistry.WellFormed (.ofTables ([] ++ catalog.tables.tables)) :=
    tables ▸ laws.tables
  have typeLaws : TypeRegistry.WellFormed ⟨[] ++ catalog.types.types⟩ := laws.types
  have entries : catalog.document.entries =
      (catalog.types.types.map UserType.entry).map Entry.type ++
        (catalog.tables.tables.map Table.entry).map Entry.table := by
    rw [Document.entries, laws.settled_document]
    rfl
  have admitted : ∀ table ∈ catalog.tables.tables, ∀ entry ∈ table.columns,
      catalog.types.Admits entry.2.type := by
    intro table member entry inside
    exact ⟨laws.resolved table member entry inside, freeColumns table member entry inside⟩
  have typesDeclared := declareEach_types typeLaws (.ofTables []) freeFields
    ((catalog.tables.tables.map Table.entry).map Entry.table)
  have tablesDeclared :=
    declareEach_tables laws.types tableLaws admitted direct.hasBuiltColumns
  calc empty.declareDocument catalog.document
      = declareEach declareEntry empty catalog.document.entries := if_pos rfl
    _ = declareEach declareEntry ⟨catalog.types, .ofTables []⟩
          ((catalog.tables.tables.map Table.entry).map Entry.table) := by
        rw [entries]
        exact typesDeclared
    _ = (catalog, .ok ()) := by
        rw [tablesDeclared, List.nil_append, ← tables]

/-- A catalog with a table declared between its two types, a refused type and every role of a
column is what its document declares. -/
theorem declareDocument_of_interleaved :
    let columns : List (String × Column) :=
      [("k", (Column.partition (.scalar true .int)).withStatic true),
        ("c", .clustering (.scalar false .text) .descending),
        ("d", (Column.clustering (.scalar false .uuid) .undefined).withStatic true),
        ("r", (Column.regular (.map false (.scalar false .int)
          (.user true ⟨0, "Point"⟩))).withStatic true)]
    let catalog := empty.performAll
      [.declareType "Point" [("x", .scalar false .int)],
        .declareTable ⟨"type", some "Shapes", columns⟩,
        .declareType "POINT" [],
        .declareType "Path" [("ends", .list true (.user false ⟨0, "Point"⟩))]]
    catalog.types.size = 2 ∧ catalog.tables.size = 1 ∧
      empty.declareDocument catalog.document = (catalog, .ok ()) := by
  intro columns catalog
  have built : ∀ entry ∈ columns, entry.2.IsBuilt := by
    refine List.forall_mem_cons.2 ⟨.withStatic _ (.partition _), ?_⟩
    refine List.forall_mem_cons.2 ⟨.clustering _ _, ?_⟩
    refine List.forall_mem_cons.2 ⟨.withStatic _ (.clustering _ _), ?_⟩
    exact List.forall_mem_singleton.2 (.withStatic _ (.regular _))
  have direct : catalog.DirectlyReachable := by
    refine ⟨_, ?_, rfl⟩
    refine List.forall_mem_cons.2 ⟨.declareType _ _, ?_⟩
    refine List.forall_mem_cons.2 ⟨.declareTable built, ?_⟩
    refine List.forall_mem_cons.2 ⟨.declareType _ _, ?_⟩
    exact List.forall_mem_singleton.2 (.declareType _ _)
  have fieldNames : ∀ type ∈ catalog.types.types, ∀ field ∈ type.fields,
      ∀ handle ∈ field.2.userTypes, DataType.Keyword.ofWord? handle.name = none := by decide
  have columnNames : ∀ table ∈ catalog.tables.tables, ∀ entry ∈ table.columns,
      ∀ handle ∈ entry.2.type.userTypes, DataType.Keyword.ofWord? handle.name = none := by decide
  refine ⟨by decide, by decide, declareDocument_document direct ?_ ?_⟩
  · intro type member field inside handle mentioned
    exact DataType.ofWord?_eq_none_iff.1
      (fieldNames type member field inside handle (DataType.mem_userTypes_iff.2 mentioned))
  · intro table member entry inside handle mentioned
    exact DataType.ofWord?_eq_none_iff.1
      (columnNames table member entry inside handle (DataType.mem_userTypes_iff.2 mentioned))

end Catalog

end CqlSchema
