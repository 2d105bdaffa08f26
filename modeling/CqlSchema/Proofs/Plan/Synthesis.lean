import CqlSchema.Plan
import CqlSchema.Proofs.DataType.Mentions
import CqlSchema.Proofs.Outcome
/-!
# How plans are made

A synthesis checks its keyspace first and only writes it down from then on. Which types the tables
require is found without a keyspace. So making a plan is refused for a keyspace that is no
identifier, and otherwise writes down what the tables require. When it succeeds, when it fails and
what it depends on are read off these two cases.
-/

namespace CqlSchema

open Outcome

/-- The handles of a table are those that its columns mention. -/
theorem Table.mem_userTypes_iff {table : Table} {handle : Handle} :
    handle ∈ table.userTypes ↔ ∃ entry ∈ table.columns, entry.2.type.Mentions handle := by
  simp only [userTypes, List.mem_flatMap, DataType.mem_userTypes_iff]

/-- The handles of tables are those that their columns mention. -/
theorem Table.mem_flatMap_userTypes_iff {tables : List Table} {handle : Handle} :
    handle ∈ tables.flatMap userTypes ↔
      ∃ table ∈ tables, ∃ entry ∈ table.columns, entry.2.type.Mentions handle := by
  simp only [List.mem_flatMap, mem_userTypes_iff]

/-- A table without a fault gives its statement and its handles. -/
theorem Table.create_eq_ok (keyspace : String) (table : Table)
    (created : Statement × List Handle) :
    table.create keyspace = .ok created ↔
      table.fault? = none ∧ created = (.createTable keyspace table, table.userTypes) := by
  unfold Table.create
  cases table.fault? with
  | some fault => simp
  | none => simp [eq_comm]

/-- Tables are created together unless one of them has a fault; the first fault is reported. -/
theorem mapM_create (keyspace : String) (tables : List Table) :
    tables.mapM (Table.create keyspace) =
      match tables.findSome? Table.fault? with
      | some fault => .error fault
      | none => .ok (tables.map fun table => (.createTable keyspace table, table.userTypes)) := by
  induction tables with
  | nil => rfl
  | cons table rest ih =>
    rw [List.mapM_cons, List.findSome?_cons, ih]
    unfold Table.create
    cases table.fault? with
    | some fault => rfl
    | none =>
      cases rest.findSome? Table.fault? with
      | some fault => rfl
      | none => rfl

/-! ## Plans without a keyspace -/

/-- Types that tables require, unless one of the tables cannot be created. -/
def requiredTypes (types : TypeRegistry) (tables : List Table) :
    Except SchemaError (List UserType) :=
  match tables.findSome? Table.fault? with
  | some fault => .error fault
  | none => types.needed (tables.flatMap Table.userTypes)

/-- The types that tables require are found when no table has a fault and the types that their
handles need are found. -/
theorem requiredTypes_eq_ok {types : TypeRegistry} {tables : List Table} {needed : List UserType} :
    requiredTypes types tables = .ok needed ↔ (∀ table ∈ tables, table.fault? = none) ∧
      types.needed (tables.flatMap Table.userTypes) = .ok needed := by
  rw [← List.findSome?_eq_none_iff, requiredTypes]
  cases tables.findSome? Table.fault? with
  | some fault => simp
  | none => simp

namespace Plan

variable {keyspace : String}

/-- Plan for tables and the types that they require. -/
def written (keyspace : String) (tables : List Table) (required : List UserType) : Plan where
  keyspace := keyspace
  types := required.map fun type => (Statement.createType keyspace type).text
  tables := tables.map fun table => (Statement.createTable keyspace table).text

/-- A keyspace that is no identifier is refused before anything else is looked at. -/
theorem ofTables_of_invalid (invalid : isIdentifier keyspace = false) (types : TypeRegistry)
    (tables : List Table) :
    ofTables keyspace types tables = .error (.invalidName keyspace .keyspace) := by
  unfold ofTables
  rw [invalid]
  rfl

/-- In a valid keyspace tables have a plan unless the types that they require are not found. -/
theorem ofTables_eq (valid : isIdentifier keyspace = true) (types : TypeRegistry)
    (tables : List Table) :
    ofTables keyspace types tables =
      (requiredTypes types tables).map (written keyspace tables) := by
  unfold ofTables requiredTypes
  rw [mapM_create, valid]
  cases tables.findSome? Table.fault? with
  | some fault => rfl
  | none =>
    show (types.creations keyspace _ >>= fun creations => _ : Except SchemaError Plan) = _
    rw [List.flatMap_map, TypeRegistry.creations]
    cases types.needed (tables.flatMap Table.userTypes) with
    | error error => rfl
    | ok needed =>
      refine congrArg Except.ok ?_
      rw [written, List.map_map]
      rfl

variable {types other : TypeRegistry} {tables : List Table}

/-- Success of a synthesis, with the types that it finds. -/
theorem ofTables_eq_ok {plan : Plan} :
    ofTables keyspace types tables = .ok plan ↔
      isIdentifier keyspace = true ∧ (∀ table ∈ tables, table.fault? = none) ∧
        ∃ needed, types.needed (tables.flatMap Table.userTypes) = .ok needed ∧
          plan = written keyspace tables needed := by
  cases identifier : isIdentifier keyspace with
  | false => simp [ofTables_of_invalid identifier]
  | true =>
    simp only [ofTables_eq identifier, map_eq_ok, requiredTypes_eq_ok, true_and]
    constructor
    · rintro ⟨needed, ⟨clean, found⟩, rfl⟩
      exact ⟨clean, needed, found, rfl⟩
    · rintro ⟨clean, needed, found, rfl⟩
      exact ⟨needed, ⟨clean, found⟩, rfl⟩

/-- A plan depends on a registry only by the types that the handles of the tables need. -/
theorem ofTables_congr (same : other.needed (tables.flatMap Table.userTypes) =
      types.needed (tables.flatMap Table.userTypes)) :
    ofTables keyspace other tables = ofTables keyspace types tables := by
  cases identifier : isIdentifier keyspace with
  | false => rw [ofTables_of_invalid identifier, ofTables_of_invalid identifier]
  | true =>
    rw [ofTables_eq identifier, ofTables_eq identifier, requiredTypes, requiredTypes, same]

end Plan

/-- A plan of a catalog has a statement for every type that its tables need and for every table. -/
theorem Catalog.plan_eq_ok {catalog : Catalog} {keyspace : String} {plan : Plan} :
    catalog.plan keyspace = .ok plan ↔
      isIdentifier keyspace = true ∧ (∀ table ∈ catalog.tables.tables, table.fault? = none) ∧
        ∃ needed, catalog.types.needed (catalog.tables.tables.flatMap Table.userTypes) =
            .ok needed ∧
          plan = ⟨keyspace, needed.map fun type => (Statement.createType keyspace type).text,
            catalog.tables.tables.map fun table =>
              (Statement.createTable keyspace table).text⟩ :=
  Plan.ofTables_eq_ok

end CqlSchema
