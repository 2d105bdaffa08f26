import CqlSchema.Document.Reader
import CqlSchema.Proofs.TableRegistry.Invariant
import CqlSchema.Proofs.TypeRegistry.Invariant
/-!
# Runs of declarations

A catalog is reached from the empty one by calls that declare a type, a table or a whole text,
each of them carried out or refused. A text declares its entries one after the other, so what
every single declaration keeps is kept by every run. In particular every reachable catalog obeys
the laws of its two registries, and its columns mention only its own types.
-/

namespace CqlSchema.Catalog

/-- Calls that change a catalog. -/
inductive Call where
  | declareType (name : String) (fields : List (String × DataType))
  | declareTable (declaration : TableDeclaration)
  | declareText (text : String)

/-- Catalog after a call, whether it was carried out or not. -/
def perform (catalog : Catalog) : Call → Catalog
  | .declareType name fields => (catalog.addType name fields).1
  | .declareTable declaration => (catalog.addTable declaration).1
  | .declareText text => (catalog.declareText text).1

/-- Catalog after calls, one after the other. -/
def performAll (catalog : Catalog) (calls : List Call) : Catalog :=
  calls.foldl perform catalog

/-- Catalogs that calls reach from the empty one. -/
def Reachable (catalog : Catalog) : Prop :=
  ∃ calls, empty.performAll calls = catalog

/-- Further calls reach further catalogs. -/
theorem Reachable.performAll {catalog : Catalog} (reachable : catalog.Reachable)
    (calls : List Call) : (catalog.performAll calls).Reachable := by
  obtain ⟨earlier, rfl⟩ := reachable
  refine ⟨earlier ++ calls, ?_⟩
  rw [Catalog.performAll, Catalog.performAll, Catalog.performAll, List.foldl_append]

/-- Texts that are declared together are declared by one call after the other. -/
theorem performAll_of_declareTexts {catalog declared : Catalog} {texts : List String}
    (ran : catalog.declareTexts texts = .ok declared) :
    catalog.performAll (texts.map .declareText) = declared := by
  induction texts generalizing catalog with
  | nil => exact Except.ok.inj ran
  | cons text rest ih =>
    rw [declareTexts] at ran
    rcases read : catalog.declareText text with ⟨extended, outcome⟩
    rw [read] at ran
    cases outcome with
    | error refusal => cases ran
    | ok nothing =>
      have first : catalog.perform (.declareText text) = extended := congrArg Prod.fst read
      show (catalog.perform (.declareText text)).performAll _ = declared
      rw [first]
      exact ih ran

/-- A catalog that texts declare together is reachable. -/
theorem reachable_of_ofTexts {catalog : Catalog} {texts : List String}
    (ran : ofTexts texts = .ok catalog) : catalog.Reachable :=
  ⟨_, performAll_of_declareTexts ran⟩

/-! ## Properties that declarations keep -/

/-- A property that every single declaration keeps. -/
structure Kept (property : Catalog → Prop) : Prop where
  /-- Declaring a type keeps it. -/
  addType : ∀ catalog name fields, property catalog → property (catalog.addType name fields).1
  /-- Declaring a table keeps it. -/
  addTable : ∀ catalog declaration, property catalog → property (catalog.addTable declaration).1

namespace Kept

variable {property : Catalog → Prop}

/-- An entry of a document is declared by at most one declaration. -/
theorem declareEntry (kept : Kept property) {catalog : Catalog} (holds : property catalog)
    (entry : Entry) : property (catalog.declareEntry entry).1 := by
  cases entry with
  | type entry =>
    show property (catalog.declareTypeEntry entry).1
    unfold declareTypeEntry
    split
    · exact holds
    · exact kept.addType _ _ _ holds
  | table entry =>
    show property (catalog.declareTableEntry entry).1
    unfold declareTableEntry
    split
    · exact holds
    · exact kept.addTable _ _ holds

/-- Declaring entries up to the first that fails keeps the property. -/
theorem declareEach (kept : Kept property) {catalog : Catalog} (holds : property catalog)
    (entries : List Entry) :
    property (Catalog.declareEach Catalog.declareEntry catalog entries).1 := by
  induction entries generalizing catalog with
  | nil => exact holds
  | cons entry rest ih =>
    have extended := kept.declareEntry holds entry
    unfold Catalog.declareEach
    split
    · rename_i declared
      rw [declared] at extended
      exact ih extended
    · rename_i failed
      rw [failed] at extended
      exact extended

/-- Declaring a document keeps the property. -/
theorem declareDocument (kept : Kept property) {catalog : Catalog} (holds : property catalog)
    (document : Document) : property (catalog.declareDocument document).1 := by
  unfold Catalog.declareDocument
  split
  · exact kept.declareEach holds _
  · exact holds

/-- Declaring a text keeps the property, whether it can be read or not. -/
theorem declareText (kept : Kept property) {catalog : Catalog} (holds : property catalog)
    (text : String) : property (catalog.declareText text).1 := by
  unfold Catalog.declareText
  split
  · exact holds
  · exact kept.declareDocument holds _

/-- Every call keeps the property. -/
theorem perform (kept : Kept property) {catalog : Catalog} (holds : property catalog)
    (call : Call) : property (catalog.perform call) := by
  cases call with
  | declareType name fields => exact kept.addType _ _ _ holds
  | declareTable declaration => exact kept.addTable _ _ holds
  | declareText text => exact kept.declareText holds text

/-- Every run of calls keeps the property. -/
theorem performAll (kept : Kept property) {catalog : Catalog} (holds : property catalog)
    (calls : List Call) : property (catalog.performAll calls) := by
  induction calls generalizing catalog with
  | nil => exact holds
  | cons call rest ih => exact ih (kept.perform holds call)

/-- A property of the empty catalog that is kept holds of every reachable one. -/
theorem of_reachable (kept : Kept property) (start : property empty) {catalog : Catalog}
    (reachable : catalog.Reachable) : property catalog := by
  obtain ⟨calls, rfl⟩ := reachable
  exact kept.performAll start calls

end Kept

/-! ## Single declarations -/

/-- A type is declared when its registry declares it, and the tables stay. -/
theorem addType_eq_ok {catalog after : Catalog} {name : String}
    {fields : List (String × DataType)} {handle : Handle}
    (added : catalog.addType name fields = (after, .ok handle)) :
    catalog.types.declare name fields = (after.types, .ok handle) ∧
      after.tables = catalog.tables := by
  rcases declared : catalog.types.declare name fields with ⟨types, outcome⟩
  rw [addType, declared] at added
  cases added
  exact ⟨rfl, rfl⟩

/-- A type that is refused leaves the catalog as it was. -/
theorem addType_eq_error {catalog after : Catalog} {name : String}
    {fields : List (String × DataType)} {refusal : SchemaError}
    (refused : catalog.addType name fields = (after, .error refusal)) : after = catalog := by
  rcases declared : catalog.types.declare name fields with ⟨types, outcome⟩
  rw [addType, declared] at refused
  cases refused
  rw [TypeRegistry.declare_eq_error declared]

/-- No column is foreign exactly when the columns mention only handles that resolve. -/
theorem foreignColumn?_eq_none_iff {catalog : Catalog} {columns : List (String × Column)} :
    catalog.foreignColumn? columns = none ↔
      ∀ entry ∈ columns, ∀ handle, entry.2.type.Mentions handle →
        ∃ type, catalog.types.resolve handle = some type := by
  rw [foreignColumn?, Option.map_eq_none_iff, List.find?_eq_none]
  simp only [Bool.not_eq_true', Bool.not_eq_false, List.all_eq_true, DataType.mem_userTypes_iff,
    TypeRegistry.resolves, Option.isSome_iff_exists]

/-- A table is declared when its registry declares it and its columns mention only types of the
catalog, and the types stay. -/
theorem addTable_eq_ok {catalog after : Catalog} {declaration : TableDeclaration} {table : Table}
    (added : catalog.addTable declaration = (after, .ok table)) :
    catalog.tables.declare declaration = (after.tables, .ok table) ∧
      after.types = catalog.types ∧
      ∀ entry ∈ declaration.columns, ∀ handle, entry.2.type.Mentions handle →
        ∃ type, catalog.types.resolve handle = some type := by
  rcases declared : catalog.tables.declare declaration with ⟨tables, outcome⟩
  unfold addTable at added
  split at added
  · cases added
  · rename_i own
    rw [declared] at added
    cases added
    exact ⟨rfl, rfl, foreignColumn?_eq_none_iff.1 own⟩

/-- A table that its registry declares is declared when its columns mention only types of the
catalog. -/
theorem addTable_of_declare {catalog : Catalog} {tables : TableRegistry}
    {declaration : TableDeclaration} {table : Table}
    (declared : catalog.tables.declare declaration = (tables, .ok table))
    (own : ∀ entry ∈ declaration.columns, ∀ handle, entry.2.type.Mentions handle →
      ∃ type, catalog.types.resolve handle = some type) :
    catalog.addTable declaration = ({ catalog with tables }, .ok table) := by
  rw [addTable, foreignColumn?_eq_none_iff.2 own, declared]

/-- A table that is refused leaves the catalog as it was, with the names that are taken. -/
theorem addTable_eq_error {catalog after : Catalog} {declaration : TableDeclaration}
    {refusal : SchemaError} (refused : catalog.addTable declaration = (after, .error refusal)) :
    after = catalog := by
  rcases declared : catalog.tables.declare declaration with ⟨tables, outcome⟩
  unfold addTable at refused
  split at refused
  · cases refused
    rfl
  · rw [declared] at refused
    cases refused
    rw [TableRegistry.declare_eq_error declared]

/-! ## Laws of reachable catalogs -/

/-- Laws of a catalog that is built by declarations. -/
structure WellFormed (catalog : Catalog) : Prop where
  /-- The registry of types obeys its laws. -/
  types : catalog.types.WellFormed
  /-- The registry of tables obeys its laws. -/
  tables : catalog.tables.WellFormed
  /-- Every handle in a column is one of this catalog. -/
  resolved : ∀ table ∈ catalog.tables.tables, ∀ entry ∈ table.columns, ∀ handle,
    entry.2.type.Mentions handle → ∃ type, catalog.types.resolve handle = some type

/-- The empty catalog keeps all laws. -/
theorem wellFormed_empty : empty.WellFormed where
  types := TypeRegistry.wellFormed_empty
  tables := TableRegistry.wellFormed_empty
  resolved := by simp [empty, TableRegistry.empty]

/-- Declaring a type keeps the laws: handles go on to resolve as they did. -/
theorem WellFormed.addType {catalog : Catalog} (laws : catalog.WellFormed) (name : String)
    (fields : List (String × DataType)) : (catalog.addType name fields).1.WellFormed := by
  rcases shape : catalog.addType name fields with ⟨after, outcome⟩
  cases outcome with
  | error refusal =>
    rw [addType_eq_error shape]
    exact laws
  | ok issued =>
    obtain ⟨declared, sameTables⟩ := addType_eq_ok shape
    have types := laws.types.declare name fields
    rw [declared] at types
    refine ⟨types, by rw [sameTables]; exact laws.tables, ?_⟩
    rw [sameTables]
    intro table member entry inside handle mentioned
    obtain ⟨type, found⟩ := laws.resolved table member entry inside handle mentioned
    have extended := (TypeRegistry.declare_eq_ok declared).1
    refine ⟨type, ?_⟩
    rw [show after.types = ⟨_⟩ from congrArg TypeRegistry.mk extended]
    exact TypeRegistry.resolve_append found _

/-- Declaring a table keeps the laws: its columns are checked against the types. -/
theorem WellFormed.addTable {catalog : Catalog} (laws : catalog.WellFormed)
    (declaration : TableDeclaration) : (catalog.addTable declaration).1.WellFormed := by
  rcases shape : catalog.addTable declaration with ⟨after, outcome⟩
  cases outcome with
  | error refusal =>
    rw [addTable_eq_error shape]
    exact laws
  | ok stored =>
    obtain ⟨declared, sameTypes, own⟩ := addTable_eq_ok shape
    have tables := laws.tables.declare declaration
    rw [declared] at tables
    refine ⟨by rw [sameTypes]; exact laws.types, tables, ?_⟩
    rw [(TableRegistry.declare_eq_ok declared).1, sameTypes]
    intro table member entry inside handle mentioned
    rcases List.mem_append.1 member with old | new
    · exact laws.resolved table old entry inside handle mentioned
    · obtain rfl := List.mem_singleton.1 new
      exact own entry inside handle mentioned

/-- Every declaration keeps the laws. -/
theorem kept_wellFormed : Kept WellFormed :=
  ⟨fun _ name fields laws => laws.addType name fields,
    fun _ declaration laws => laws.addTable declaration⟩

/-- Every reachable catalog is well formed. -/
theorem Reachable.wellFormed {catalog : Catalog} (reachable : catalog.Reachable) :
    catalog.WellFormed :=
  kept_wellFormed.of_reachable wellFormed_empty reachable

/-- What declaring one type or one table does to a catalog. -/
structure DeclaresAtEnd (catalog : Catalog) : Prop where
  /-- A declared type gets the next number and its fields as they were declared; its handle is
  returned, and nothing else changes. -/
  typeAdded : ∀ (name : String) (fields : List (String × DataType)) (after : Catalog)
    (handle : Handle), catalog.addType name fields = (after, .ok handle) →
      after.types.types = catalog.types.types ++ [⟨catalog.types.size, name, fields⟩] ∧
        handle = ⟨catalog.types.size, name⟩ ∧ after.tables = catalog.tables
  /-- A refused type changes nothing. -/
  typeRefused : ∀ (name : String) (fields : List (String × DataType)) (after : Catalog)
    (refusal : SchemaError), catalog.addType name fields = (after, .error refusal) →
      after = catalog
  /-- A declared table gets its columns as they were declared; it is returned, and nothing else
  changes but that its folded name is taken. -/
  tableAdded : ∀ (declaration : TableDeclaration) (after : Catalog) (table : Table),
    catalog.addTable declaration = (after, .ok table) →
      after.tables.tables =
          catalog.tables.tables ++ [⟨declaration.name, declaration.columns⟩] ∧
        after.tables.names = Text.fold declaration.name :: catalog.tables.names ∧
        table = ⟨declaration.name, declaration.columns⟩ ∧ after.types = catalog.types
  /-- A refused table changes nothing, not even the names that are taken. -/
  tableRefused : ∀ (declaration : TableDeclaration) (after : Catalog) (refusal : SchemaError),
    catalog.addTable declaration = (after, .error refusal) → after = catalog

/-- Every declaration either adds one entry at the end of its registry or changes nothing. -/
theorem declaresAtEnd (catalog : Catalog) : catalog.DeclaresAtEnd where
  typeAdded name fields after handle added := by
    obtain ⟨declared, sameTables⟩ := addType_eq_ok added
    obtain ⟨extended, issued, -⟩ := TypeRegistry.declare_eq_ok declared
    exact ⟨extended, issued, sameTables⟩
  typeRefused _ _ _ _ refused := addType_eq_error refused
  tableAdded declaration after table added := by
    obtain ⟨declared, sameTypes, -⟩ := addTable_eq_ok added
    obtain ⟨extended, taken, issued, -⟩ := TableRegistry.declare_eq_ok declared
    exact ⟨extended, taken, issued, sameTypes⟩
  tableRefused _ _ _ refused := addTable_eq_error refused

/-- Every reachable catalog obeys the laws of its registries, answers whether a name is taken by
its stored tables, and is changed by a declaration only at the end of a registry. -/
theorem laws_of_reachable {catalog : Catalog} (reachable : catalog.Reachable) :
    catalog.WellFormed ∧
      (∀ name, catalog.tables.hasTable name = true ↔
        ∃ table ∈ catalog.tables.tables, Text.sameFolded table.name name = true) ∧
      catalog.DeclaresAtEnd :=
  ⟨reachable.wellFormed, reachable.wellFormed.tables.hasTable_iff, catalog.declaresAtEnd⟩

/-- The laws after a type, the same type in other letters, a table of that type, and a table
whose name is taken. -/
theorem laws_after_two_refusals :
    let catalog := empty.performAll
      [.declareType "Point" [("x", .scalar false .int)],
        .declareType "POINT" [("y", .scalar false .int)],
        .declareTable ⟨"t", none, [("p", .partition (.list true (.user false ⟨0, "Point"⟩)))]⟩,
        .declareTable ⟨"T", none, []⟩]
    catalog.Reachable ∧ catalog.types.size = 1 ∧ catalog.tables.size = 1 ∧
      catalog.WellFormed ∧
      (∀ name, catalog.tables.hasTable name = true ↔
        ∃ table ∈ catalog.tables.tables, Text.sameFolded table.name name = true) ∧
      catalog.DeclaresAtEnd :=
  ⟨⟨_, rfl⟩, by decide, by decide, laws_of_reachable ⟨_, rfl⟩⟩

end CqlSchema.Catalog
