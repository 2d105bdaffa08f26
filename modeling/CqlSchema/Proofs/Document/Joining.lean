import CqlSchema.Proofs.Document.Acceptance
/-!
# Documents in parts

A schema may be written in one document or in several. Several documents are declared one after
the other, so the types of a later one come after the tables of an earlier one; their joined
document declares all types first. The order does not matter: a type is declared without a look
at the tables, and a table that is declared over some types is declared alike over more of them.
-/

namespace CqlSchema

/-! ## Joined documents -/

namespace Document

/-- Two documents write no type and no table under the same key. -/
structure Disjoint (first second : Document) : Prop where
  /-- No key of a type is written in both. -/
  types : List.Disjoint (first.types.map Prod.fst) (second.types.map Prod.fst)
  /-- No key of a table is written in both. -/
  tables : List.Disjoint (first.tables.map Prod.fst) (second.tables.map Prod.fst)

/-- Document of version 1 with the types of two documents in a row, and their tables. -/
def join (first second : Document) : Document where
  version := 1
  types := first.types ++ second.types
  tables := first.tables ++ second.tables

/-- Documents without a common key are settled each by itself. -/
theorem Disjoint.settled_join {first second : Document} (disjoint : first.Disjoint second) :
    (first.join second).settled = first.settled.join second.settled := by
  -- Only the bodies are settled first, so the keys stay and are still disjoint.
  have sections : ∀ {α : Type} (settleBody : α → α) {left right : Entries α},
      List.Disjoint (left.map Prod.fst) (right.map Prod.fst) →
        Entries.settle ((left ++ right).map fun entry => (entry.1, settleBody entry.2)) =
          Entries.settle (left.map fun entry => (entry.1, settleBody entry.2)) ++
            Entries.settle (right.map fun entry => (entry.1, settleBody entry.2)) := by
    intro α settleBody left right apart
    rw [List.map_append, Entries.settle_append]
    rw [Entries.keys_map, Entries.keys_map]
    exact apart
  exact congrArg₂ (Document.mk 1) (sections Entries.settle disjoint.types)
    (sections (fun table => { table with columns := table.columns.settle }) disjoint.tables)

/-- The joined document has all types before all tables. -/
theorem Disjoint.entries_join {first second : Document} (disjoint : first.Disjoint second) :
    (first.join second).entries =
      (first.settled.types.map .type ++ second.settled.types.map .type) ++
        (first.settled.tables.map .table ++ second.settled.tables.map .table) := by
  rw [entries, disjoint.settled_join, join, List.map_append, List.map_append]

end Document

namespace Catalog

/-! ## Single entries -/

/-- A type is declared alike whatever tables there are. -/
theorem declareTypeEntry_of_types {types after : TypeRegistry} {tables changed : TableRegistry}
    {entry : String × Entries String}
    (declared : declareTypeEntry ⟨types, tables⟩ entry = (⟨after, changed⟩, .ok ())) :
    changed = tables ∧ ∀ others : TableRegistry,
      declareTypeEntry ⟨types, others⟩ entry = (⟨after, others⟩, .ok ()) := by
  obtain ⟨fields, handle, converted, added⟩ := declareTypeEntry_eq_ok.1 declared
  obtain ⟨registered, sameTables⟩ := addType_eq_ok added
  refine ⟨sameTables, fun others => declareTypeEntry_eq_ok.2 ⟨fields, handle, converted, ?_⟩⟩
  rw [addType, registered]

/-- A table that is declared over some types is declared alike over more of them. -/
theorem declareTableEntry_of_extends {types changed later : TypeRegistry}
    {tables after : TableRegistry} {entry : String × TableEntry} (growth : later.Extends types)
    (declared : declareTableEntry ⟨types, tables⟩ entry = (⟨changed, after⟩, .ok ())) :
    changed = types ∧ declareTableEntry ⟨later, tables⟩ entry = (⟨later, after⟩, .ok ()) := by
  obtain ⟨columns, table, converted, added⟩ := declareTableEntry_eq_ok.1 declared
  obtain ⟨registered, sameTypes, own⟩ := addTable_eq_ok added
  have convertedLater : entry.2.columns.mapM
      (namedColumn ⟨later, tables⟩ (entry.2.name.getD entry.1)) = .ok columns := by
    have each := Outcome.mapM_eq_ok_iff_forall₂.1 converted
    refine Outcome.mapM_eq_ok_iff_forall₂.2 (each.imp fun written column single => ?_)
    have described := namedColumn_eq_ok.1 single
    exact namedColumn_eq_ok.2 (described.imp fun _ _ read => growth.parse read)
  have addedLater : addTable ⟨later, tables⟩ ⟨entry.1, entry.2.name, columns⟩ =
      (⟨later, after⟩, .ok table) := by
    refine addTable_of_declare registered fun column member handle mentioned => ?_
    obtain ⟨type, found⟩ := own column member handle mentioned
    exact ⟨type, growth.resolve found⟩
  exact ⟨sameTypes, declareTableEntry_eq_ok.2 ⟨columns, table, convertedLater, addedLater⟩⟩

/-! ## Runs of entries -/

/-- Types in a row are declared alike whatever tables there are. -/
theorem declareEach_types_of_types {types after : TypeRegistry} {tables changed : TableRegistry}
    {entries : Entries (Entries String)}
    (declared : declareEach declareEntry ⟨types, tables⟩ (entries.map .type) =
      (⟨after, changed⟩, .ok ())) :
    changed = tables ∧ ∀ others : TableRegistry,
      declareEach declareEntry ⟨types, others⟩ (entries.map .type) = (⟨after, others⟩, .ok ()) := by
  induction entries generalizing types with
  | nil =>
    cases declared
    exact ⟨rfl, fun _ => rfl⟩
  | cons entry rest ih =>
    obtain ⟨⟨middle, kept⟩, first, later⟩ := declareEach_cons_eq_ok.1 declared
    obtain ⟨rfl, firstAlike⟩ := declareTypeEntry_of_types first
    obtain ⟨rfl, laterAlike⟩ := ih later
    refine ⟨rfl, fun others => declareEach_cons_eq_ok.2 ⟨⟨middle, others⟩, ?_, ?_⟩⟩
    · exact firstAlike others
    · exact laterAlike others

/-- Tables in a row that are declared over some types are declared alike over more of them. -/
theorem declareEach_tables_of_extends {types changed later : TypeRegistry}
    {tables after : TableRegistry} {entries : Entries TableEntry} (growth : later.Extends types)
    (declared : declareEach declareEntry ⟨types, tables⟩ (entries.map .table) =
      (⟨changed, after⟩, .ok ())) :
    changed = types ∧ declareEach declareEntry ⟨later, tables⟩ (entries.map .table) =
      (⟨later, after⟩, .ok ()) := by
  induction entries generalizing tables with
  | nil =>
    cases declared
    exact ⟨rfl, rfl⟩
  | cons entry rest ih =>
    obtain ⟨⟨kept, middle⟩, first, others⟩ := declareEach_cons_eq_ok.1 declared
    obtain ⟨rfl, firstAlike⟩ := declareTableEntry_of_extends growth first
    obtain ⟨rfl, othersAlike⟩ := ih others
    exact ⟨rfl, declareEach_cons_eq_ok.2 ⟨⟨later, middle⟩, firstAlike, othersAlike⟩⟩

/-- Tables that are declared before types may as well be declared after them. -/
theorem declareEach_types_first {catalog after : Catalog} {types : Entries (Entries String)}
    {tables : Entries TableEntry}
    (declared : declareEach declareEntry catalog (tables.map .table ++ types.map .type) =
      (after, .ok ())) :
    declareEach declareEntry catalog (types.map .type ++ tables.map .table) = (after, .ok ()) := by
  obtain ⟨middle, tablesDeclared, typesDeclared⟩ := declareEach_append_eq_ok.1 declared
  have growth : after.types.Extends middle.types :=
    (gains_of_declareEach typesDeclared).extends_types
  obtain ⟨sameTables, typesAlike⟩ := declareEach_types_of_types typesDeclared
  obtain ⟨sameTypes, -⟩ := declareEach_tables_of_extends List.prefix_rfl tablesDeclared
  rw [sameTypes] at growth typesAlike
  obtain ⟨-, tablesAlike⟩ := declareEach_tables_of_extends growth tablesDeclared
  rw [← sameTables] at tablesAlike
  exact declareEach_append_eq_ok.2 ⟨_, typesAlike catalog.tables, tablesAlike⟩

/-- Two documents without a common key that are declared one after the other declare what their
joined document declares: the same types and tables, in the same order and under the same
numbers. -/
theorem declareDocument_join {catalog middle after : Catalog} {first second : Document}
    (disjoint : first.Disjoint second)
    (firstDeclared : catalog.declareDocument first = (middle, .ok ()))
    (secondDeclared : middle.declareDocument second = (after, .ok ())) :
    catalog.declareDocument (first.join second) = (after, .ok ()) := by
  obtain ⟨-, firstEntries⟩ := declareDocument_eq_ok.1 firstDeclared
  obtain ⟨-, secondEntries⟩ := declareDocument_eq_ok.1 secondDeclared
  obtain ⟨typed, firstTypes, firstTables⟩ := declareEach_append_eq_ok.1 firstEntries
  obtain ⟨tabled, secondTypes, secondTables⟩ := declareEach_append_eq_ok.1 secondEntries
  -- The tables of the first document give way to the types of the second.
  have swapped := declareEach_types_first
    (declareEach_append_eq_ok.2 ⟨middle, firstTables, secondTypes⟩)
  obtain ⟨allTyped, secondTypesEarly, firstTablesLate⟩ := declareEach_append_eq_ok.1 swapped
  have types := declareEach_append_eq_ok.2 ⟨typed, firstTypes, secondTypesEarly⟩
  have tables := declareEach_append_eq_ok.2 ⟨tabled, firstTablesLate, secondTables⟩
  refine declareDocument_eq_ok.2 ⟨rfl, ?_⟩
  rw [disjoint.entries_join]
  exact declareEach_append_eq_ok.2 ⟨allTyped, types, tables⟩

/-- A document whose type and table use a type of an earlier document and one that was declared
before both may as well be joined to the earlier one. -/
theorem declareDocument_of_two_parts :
    let key : String × ColumnEntry :=
      ("id", .detail ⟨some "uuid", some "partition", none, none, []⟩)
    let first : Document := ⟨1, [("Point", [("x", "int"), ("y", "int")])],
      [("shapes", ⟨none, [key, ("center", .signature "Point")]⟩)]⟩
    let second : Document := ⟨1, [("Path", [("ends", "list<frozen<Point>>"), ("size", "Size")])],
      [("routes", ⟨some "paths", [key, ("path", .signature "frozen<Path>")]⟩)]⟩
    let catalog := empty.performAll [.declareType "Size" [("width", .scalar false .int)]]
    let middle := catalog.performAll
      [.declareType "Point" [("x", .scalar false .int), ("y", .scalar false .int)],
        .declareTable ⟨"shapes", none, [("id", .partition (.scalar false .uuid)),
          ("center", .regular (.user false ⟨1, "Point"⟩))]⟩]
    let after := middle.performAll
      [.declareType "Path" [("ends", .list false (.user true ⟨1, "Point"⟩)),
          ("size", .user false ⟨0, "Size"⟩)],
        .declareTable ⟨"routes", some "paths", [("id", .partition (.scalar false .uuid)),
          ("path", .regular (.user true ⟨2, "Path"⟩))]⟩]
    catalog.Reachable ∧ first.Disjoint second ∧
      catalog.declareDocument first = (middle, .ok ()) ∧
      middle.declareDocument second = (after, .ok ()) ∧
      catalog.declareDocument (first.join second) = (after, .ok ()) := by
  intro key first second catalog middle after
  have disjoint : first.Disjoint second := ⟨by simp [first, second], by simp [first, second]⟩
  have firstDeclared : catalog.declareDocument first = (middle, .ok ()) := by decide +kernel
  have secondDeclared : middle.declareDocument second = (after, .ok ()) := by decide +kernel
  exact ⟨⟨_, rfl⟩, disjoint, firstDeclared, secondDeclared,
    declareDocument_join disjoint firstDeclared secondDeclared⟩

end Catalog

end CqlSchema
