import CqlSchema.Proofs.Catalog.Run
import CqlSchema.Proofs.TypeRegistry.Growth
/-!
# What an accepted document adds

A document that is declared without an error adds one type for every entry of its settled types and
one table for every entry of its settled tables, in order. A field or column has the name that it is
written under and the type that its text is read as. Texts are read while the catalog grows, but
what they are read as stays, so it can be told from the final catalog.
-/

namespace CqlSchema

open Outcome

/-! ## Declared from written entries -/

section Written

variable (reads : String → DataType → Prop)

/-- A field of the name that an entry gives, with a type that its text is read as. -/
structure FieldOf (written : String × String) (field : String × DataType) : Prop where
  /-- The name is written in front of the text. -/
  name_eq : field.1 = written.1
  /-- The type is read from the text. -/
  type_read : reads written.2 field.2

/-- A column of the name that an entry gives, as the entry describes it. -/
structure ColumnOf (written : String × ColumnEntry) (column : String × Column) : Prop where
  /-- The name is written in front of the description. -/
  name_eq : column.1 = written.1
  /-- The type is read from the text that the description gives. -/
  type_read : ∃ text, written.2.toDetail.signature = .ok text ∧ reads text column.2.type
  /-- With that type the description amounts to the column. -/
  described : written.2.toDetail.finish column.2.type = .ok column.2

/-- A type of the name that an entry gives, with one field for every entry of its body. -/
structure TypeOf (written : String × Entries String) (type : UserType) : Prop where
  /-- The name is written in front of the body. -/
  name_eq : type.name = written.1
  /-- Fields and their entries go together, in order. -/
  fields : List.Forall₂ (FieldOf reads) written.2 type.fields

/-- A table that an entry names, with one column for every entry of its columns. -/
structure TableOf (written : String × TableEntry) (table : Table) : Prop where
  /-- The name in the body replaces the one in front of it. -/
  name_eq : table.name = written.2.name.getD written.1
  /-- Columns and their entries go together, in order. -/
  columns : List.Forall₂ (ColumnOf reads) written.2.columns table.columns

/-- A catalog gains one type and one table for every written entry, at the ends of its registries
and in written order. -/
structure Catalog.Gains (before after : Catalog) (types : Entries (Entries String))
    (tables : Entries TableEntry) : Prop where
  /-- Types and their entries go together. -/
  types : ∃ added, after.types.types = before.types.types ++ added ∧
    List.Forall₂ (TypeOf reads) types added
  /-- Tables and their entries go together. -/
  tables : ∃ added, after.tables.tables = before.tables.tables ++ added ∧
    List.Forall₂ (TableOf reads) tables added

end Written

section Weaker

variable {reads weaker : String → DataType → Prop}

/-- What is said of the type of a field may be weakened. -/
theorem FieldOf.imp (weaken : ∀ text type, reads text type → weaker text type)
    {written : String × String} {field : String × DataType}
    (declared : FieldOf reads written field) : FieldOf weaker written field :=
  ⟨declared.name_eq, weaken _ _ declared.type_read⟩

/-- What is said of the type of a column may be weakened. -/
theorem ColumnOf.imp (weaken : ∀ text type, reads text type → weaker text type)
    {written : String × ColumnEntry} {column : String × Column}
    (declared : ColumnOf reads written column) : ColumnOf weaker written column := by
  obtain ⟨text, given, read⟩ := declared.type_read
  exact ⟨declared.name_eq, ⟨text, given, weaken _ _ read⟩, declared.described⟩

/-- What is said of the types of all fields and columns may be weakened. -/
theorem Catalog.Gains.imp (weaken : ∀ text type, reads text type → weaker text type)
    {before after : Catalog} {types : Entries (Entries String)} {tables : Entries TableEntry}
    (gains : Catalog.Gains reads before after types tables) :
    Catalog.Gains weaker before after types tables := by
  obtain ⟨⟨addedTypes, typesEq, eachType⟩, ⟨addedTables, tablesEq, eachTable⟩⟩ := gains
  refine ⟨⟨addedTypes, typesEq, eachType.imp ?_⟩, ⟨addedTables, tablesEq, eachTable.imp ?_⟩⟩
  · intro written type declared
    exact ⟨declared.name_eq, declared.fields.imp fun _ _ field => field.imp weaken⟩
  · intro written table declared
    exact ⟨declared.name_eq, declared.columns.imp fun _ _ column => column.imp weaken⟩

end Weaker

/-- Gains in a row are the gain of all their entries. -/
theorem Catalog.Gains.trans {reads : String → DataType → Prop} {before middle after : Catalog}
    {types laterTypes : Entries (Entries String)} {tables laterTables : Entries TableEntry}
    (first : Catalog.Gains reads before middle types tables)
    (second : Catalog.Gains reads middle after laterTypes laterTables) :
    Catalog.Gains reads before after (types ++ laterTypes) (tables ++ laterTables) := by
  obtain ⟨⟨addedTypes, typesEq, eachType⟩, ⟨addedTables, tablesEq, eachTable⟩⟩ := first
  obtain ⟨⟨moreTypes, moreTypesEq, eachLaterType⟩, ⟨moreTables, moreTablesEq, eachLaterTable⟩⟩ :=
    second
  refine ⟨⟨addedTypes ++ moreTypes, ?_, List.rel_append eachType eachLaterType⟩,
    ⟨addedTables ++ moreTables, ?_, List.rel_append eachTable eachLaterTable⟩⟩
  · rw [moreTypesEq, typesEq, List.append_assoc]
  · rw [moreTablesEq, tablesEq, List.append_assoc]

/-- A catalog with further types extends the registry that it had. -/
theorem Catalog.Gains.extends_types {reads : String → DataType → Prop} {before after : Catalog}
    {types : Entries (Entries String)} {tables : Entries TableEntry}
    (gains : Catalog.Gains reads before after types tables) :
    after.types.Extends before.types := by
  obtain ⟨⟨added, whole, -⟩, -⟩ := gains
  exact ⟨added, whole.symm⟩

/-! ## Converted entries -/

namespace ColumnDetail

variable {detail : ColumnDetail} {type : DataType}

/-- A column has the type that it is made with. -/
theorem type_of_column {order : ClusteringOrder} {column : Column}
    (made : detail.column type order = .ok column) : column.type = type := by
  unfold ColumnDetail.column at made
  dsimp only at made
  split at made
  · split at made
    · cases made
    · cases made
      rfl
  · split at made
    · cases made
      rfl
    · split at made
      · cases made
        rfl
      · cases made

/-- A column has the type with which its description is completed. -/
theorem type_of_finish {column : Column} (finished : detail.finish type = .ok column) :
    column.type = type := by
  obtain ⟨order, -, remaining⟩ := bind_eq_ok.1 finished
  obtain ⟨made, columnMade, done⟩ := bind_eq_ok.1 remaining
  split at done
  · cases done
  · cases done
    show made.type = type
    exact type_of_column columnMade

end ColumnDetail

/-- A text is read as a type over a registry. -/
def TypeRegistry.Reads (registry : TypeRegistry) (text : String) (type : DataType) : Prop :=
  registry.parse text = .ok type

namespace Catalog

variable {catalog after : Catalog}

/-- An entry of a body is converted to the field of its name and of the type that its text is read
as. -/
theorem field_eq_ok {name : String} {written : String × String} {field : String × DataType} :
    catalog.field name written = .ok field ↔ FieldOf catalog.types.Reads written field := by
  unfold Catalog.field
  constructor
  · intro converted
    split at converted
    · rename_i found read
      cases converted
      exact ⟨rfl, mapError_eq_ok.2 read⟩
    · cases converted
  · rintro ⟨named, read⟩
    rw [mapError_eq_ok.1 read, ← named]

/-- An entry of a table is converted to the column of its name that it describes with the type that
its text is read as. -/
theorem namedColumn_eq_ok {table : String} {written : String × ColumnEntry}
    {column : String × Column} :
    catalog.namedColumn table written = .ok column ↔
      ColumnOf catalog.types.Reads written column := by
  constructor
  · intro converted
    obtain ⟨made, columnMade, rfl⟩ := map_eq_ok.1 converted
    obtain ⟨text, given, remaining⟩ := bind_eq_ok.1 columnMade
    obtain ⟨type, read, described⟩ := bind_eq_ok.1 remaining
    have finished := mapError_eq_ok.1 described
    obtain rfl := ColumnDetail.type_of_finish finished
    exact ⟨rfl, ⟨text, mapError_eq_ok.1 given, read⟩, finished⟩
  · rintro ⟨named, ⟨text, given, read⟩, described⟩
    refine map_eq_ok.2 ⟨column.2, ?_, by rw [← named]⟩
    refine bind_eq_ok.2 ⟨text, mapError_eq_ok.2 given, bind_eq_ok.2 ⟨_, read, ?_⟩⟩
    exact mapError_eq_ok.2 described

/-- An entry for a type is carried out when its fields are converted and the type is added. -/
theorem declareTypeEntry_eq_ok {entry : String × Entries String} :
    catalog.declareTypeEntry entry = (after, .ok ()) ↔
      ∃ fields handle, entry.2.mapM (catalog.field entry.1) = .ok fields ∧
        catalog.addType entry.1 fields = (after, .ok handle) := by
  unfold declareTypeEntry
  constructor
  · intro declared
    split at declared
    · cases declared
    · rename_i fields converted
      rcases added : catalog.addType entry.1 fields with ⟨extended, outcome⟩
      simp only [added] at declared
      obtain ⟨rfl, succeeded⟩ := Prod.mk.inj declared
      obtain ⟨handle, rfl, -⟩ := map_eq_ok.1 succeeded
      exact ⟨fields, handle, converted, added⟩
  · rintro ⟨fields, handle, converted, added⟩
    rw [converted]
    simp only [added]
    rfl

/-- An entry for a table is carried out when its columns are converted and the table is added. -/
theorem declareTableEntry_eq_ok {entry : String × TableEntry} :
    catalog.declareTableEntry entry = (after, .ok ()) ↔
      ∃ columns table,
        entry.2.columns.mapM (catalog.namedColumn (entry.2.name.getD entry.1)) = .ok columns ∧
        catalog.addTable ⟨entry.1, entry.2.name, columns⟩ = (after, .ok table) := by
  unfold declareTableEntry
  constructor
  · intro declared
    split at declared
    · cases declared
    · rename_i columns converted
      rcases added : catalog.addTable ⟨entry.1, entry.2.name, columns⟩ with ⟨extended, outcome⟩
      simp only [added] at declared
      obtain ⟨rfl, succeeded⟩ := Prod.mk.inj declared
      obtain ⟨table, rfl, -⟩ := map_eq_ok.1 succeeded
      exact ⟨columns, table, converted, added⟩
  · rintro ⟨columns, table, converted, added⟩
    rw [converted]
    simp only [added]
    rfl

/-! ## Runs of entries -/

/-- What an entry writes into the types of a document. -/
def Entry.types : Entry → Entries (Entries String)
  | .type entry => [entry]
  | .table _ => []

/-- What an entry writes into the tables of a document. -/
def Entry.tables : Entry → Entries TableEntry
  | .type _ => []
  | .table entry => [entry]

/-- An entry that is declared adds what it writes, read over the types that it found. -/
theorem gains_of_declareEntry {entry : Entry}
    (declared : catalog.declareEntry entry = (after, .ok ())) :
    Gains catalog.types.Reads catalog after entry.types entry.tables := by
  cases entry with
  | type entry =>
    obtain ⟨fields, handle, converted, added⟩ := declareTypeEntry_eq_ok.1 declared
    obtain ⟨typesEq, -, tablesEq⟩ := catalog.declaresAtEnd.typeAdded _ _ _ _ added
    have each := mapM_eq_ok_iff_forall₂.1 converted
    refine ⟨⟨_, typesEq, .cons ⟨rfl, ?_⟩ .nil⟩, ⟨[], ?_, .nil⟩⟩
    · exact each.imp fun _ _ field => field_eq_ok.1 field
    · rw [tablesEq, List.append_nil]
  | table entry =>
    obtain ⟨columns, table, converted, added⟩ := declareTableEntry_eq_ok.1 declared
    obtain ⟨tablesEq, -, -, typesEq⟩ := catalog.declaresAtEnd.tableAdded _ _ _ added
    have each := mapM_eq_ok_iff_forall₂.1 converted
    refine ⟨⟨[], ?_, .nil⟩, ⟨_, tablesEq, .cons ⟨rfl, ?_⟩ .nil⟩⟩
    · rw [typesEq, List.append_nil]
    · exact each.imp fun _ _ column => namedColumn_eq_ok.1 column

/-- Entries are declared when the first is, and then the others. -/
theorem declareEach_cons_eq_ok {entry : Entry} {rest : List Entry} :
    declareEach declareEntry catalog (entry :: rest) = (after, .ok ()) ↔
      ∃ middle, catalog.declareEntry entry = (middle, .ok ()) ∧
        declareEach declareEntry middle rest = (after, .ok ()) := by
  rw [declareEach]
  constructor
  · intro declared
    split at declared
    · rename_i middle first
      exact ⟨middle, first, declared⟩
    · cases declared
  · rintro ⟨middle, first, later⟩
    rw [first]
    exact later

/-- Entries in a row are declared when the first of them are, and then the others. -/
theorem declareEach_append_eq_ok {entries others : List Entry} :
    declareEach declareEntry catalog (entries ++ others) = (after, .ok ()) ↔
      ∃ middle, declareEach declareEntry catalog entries = (middle, .ok ()) ∧
        declareEach declareEntry middle others = (after, .ok ()) := by
  induction entries generalizing catalog with
  | nil =>
    constructor
    · intro declared
      exact ⟨catalog, rfl, declared⟩
    · rintro ⟨middle, none, later⟩
      cases none
      exact later
  | cons entry rest ih =>
    simp only [List.cons_append, declareEach_cons_eq_ok, ih]
    constructor
    · rintro ⟨first, declared, middle, firsts, later⟩
      exact ⟨middle, ⟨first, declared, firsts⟩, later⟩
    · rintro ⟨middle, ⟨first, declared, firsts⟩, later⟩
      exact ⟨first, declared, middle, firsts, later⟩

/-- Entries that are all declared add what they write, read over the types at the end. -/
theorem gains_of_declareEach {entries : List Entry}
    (declared : declareEach declareEntry catalog entries = (after, .ok ())) :
    Gains after.types.Reads catalog after (entries.flatMap Entry.types)
      (entries.flatMap Entry.tables) := by
  induction entries generalizing catalog with
  | nil =>
    cases declared
    exact ⟨⟨[], (List.append_nil _).symm, .nil⟩, ⟨[], (List.append_nil _).symm, .nil⟩⟩
  | cons entry rest ih =>
    obtain ⟨middle, entryDeclared, restDeclared⟩ := declareEach_cons_eq_ok.1 declared
    have later := ih restDeclared
    have first := gains_of_declareEntry entryDeclared
    -- What the entry read over the types before it is still read so over all types.
    have growth : after.types.Extends catalog.types :=
      List.IsPrefix.trans first.extends_types later.extends_types
    exact (first.imp fun _ _ read => growth.parse read).trans later

/-- A document of version 1 is declared when its entries are, in their order. -/
theorem declareDocument_eq_ok {document : Document} :
    catalog.declareDocument document = (after, .ok ()) ↔
      document.version = 1 ∧
        declareEach declareEntry catalog document.entries = (after, .ok ()) := by
  unfold declareDocument
  split
  · rename_i supported
    exact ⟨fun declared => ⟨supported, declared⟩, fun declared => declared.2⟩
  · rename_i unsupported
    constructor
    · intro refused
      cases refused
    · rintro ⟨supported, -⟩
      exact absurd supported unsupported

/-- A document that is declared adds what its settled entries write. -/
theorem gains_of_declareDocument {document : Document}
    (accepted : catalog.declareDocument document = (after, .ok ())) :
    Gains after.types.Reads catalog after document.settled.types document.settled.tables := by
  have types : document.entries.flatMap Entry.types = document.settled.types := by
    simp [Document.entries, List.flatMap_map, Entry.types]
  have tables : document.entries.flatMap Entry.tables = document.settled.tables := by
    simp [Document.entries, List.flatMap_map, Entry.tables]
  have gains := gains_of_declareEach (declareDocument_eq_ok.1 accepted).2
  rw [types, tables] at gains
  exact gains

/-- A text is declared when it writes a document that is. -/
theorem declareText_eq_ok {text : String} :
    catalog.declareText text = (after, .ok ()) ↔
      ∃ document, Document.ofText? text = some document ∧
        catalog.declareDocument document = (after, .ok ()) := by
  unfold declareText
  cases Document.ofText? text with
  | none => simp
  | some document => simp

end Catalog

end CqlSchema
