import CqlSchema.Proofs.Plan.Refusal
import CqlSchema.Proofs.TypeRegistry.Growth
/-!
# Plans of catalogs that grow

Calls only add types and tables at the end of a catalog, so a catalog grows into one that extends
it. An error of its plan stays the error: the first faulty table stays the first. A plan is found
again in the plan of the larger catalog, with its tables in front and its types in order among the
other ones. New types alone change no plan, since tables that stood before need nothing new.
-/

namespace CqlSchema

open Outcome

namespace Catalog

/-! ## Catalogs that extend others -/

/-- A catalog extends another one when the types and the tables of that one stand in front of its
own. -/
structure Extends (later earlier : Catalog) : Prop where
  /-- The earlier types are the first types. -/
  types : later.types.Extends earlier.types
  /-- The earlier tables are the first tables. -/
  tables : earlier.tables.tables <+: later.tables.tables

/-- A catalog extends itself. -/
theorem Extends.refl (catalog : Catalog) : catalog.Extends catalog :=
  ⟨List.prefix_rfl, List.prefix_rfl⟩

/-- A catalog with one more type extends all that it extended before. -/
theorem Extends.addType {catalog earlier : Catalog} (growth : catalog.Extends earlier)
    (name : String) (fields : List (String × DataType)) :
    (catalog.addType name fields).1.Extends earlier := by
  rcases shape : catalog.addType name fields with ⟨after, outcome⟩
  cases outcome with
  | error refusal =>
    rw [addType_eq_error shape]
    exact growth
  | ok issued =>
    obtain ⟨declared, sameTables⟩ := addType_eq_ok shape
    have extended := (TypeRegistry.declare_eq_ok declared).1
    refine ⟨?_, ?_⟩
    · show earlier.types.types <+: after.types.types
      rw [extended]
      exact growth.types.trans (List.prefix_append _ _)
    · show earlier.tables.tables <+: after.tables.tables
      rw [sameTables]
      exact growth.tables

/-- A catalog with one more table extends all that it extended before. -/
theorem Extends.addTable {catalog earlier : Catalog} (growth : catalog.Extends earlier)
    (declaration : TableDeclaration) : (catalog.addTable declaration).1.Extends earlier := by
  rcases shape : catalog.addTable declaration with ⟨after, outcome⟩
  cases outcome with
  | error refusal =>
    rw [addTable_eq_error shape]
    exact growth
  | ok stored =>
    obtain ⟨declared, sameTypes, -⟩ := addTable_eq_ok shape
    have extended := (TableRegistry.declare_eq_ok declared).1
    refine ⟨?_, ?_⟩
    · show after.types.Extends earlier.types
      rw [sameTypes]
      exact growth.types
    · show earlier.tables.tables <+: after.tables.tables
      rw [extended]
      exact growth.tables.trans (List.prefix_append _ _)

/-- Calls, carried out or refused, only extend a catalog. -/
theorem extends_performAll (catalog : Catalog) (calls : List Call) :
    (catalog.performAll calls).Extends catalog := by
  have kept : Kept fun later => later.Extends catalog :=
    ⟨fun _ name fields growth => growth.addType name fields,
      fun _ declaration growth => growth.addTable declaration⟩
  exact kept.performAll (Extends.refl catalog) calls

/-! ## Plans of the larger catalog -/

/-- A plan has one statement for every table. -/
theorem length_tables_of_plan {catalog : Catalog} {keyspace : String} {plan : Plan}
    (planned : catalog.plan keyspace = .ok plan) :
    plan.tables.length = catalog.tables.size := by
  obtain ⟨-, -, needed, -, rfl⟩ := plan_eq_ok.1 planned
  exact List.length_map _

namespace Extends

variable {earlier later : Catalog} {keyspace : String}

/-- The types of the larger catalog give the earlier tables the plan that they had. -/
theorem ofTables_eq (growth : later.Extends earlier) (laws : earlier.WellFormed)
    (laterLaws : later.WellFormed) :
    Plan.ofTables keyspace later.types earlier.tables.tables = earlier.plan keyspace := by
  have own : ∀ handle ∈ earlier.tables.tables.flatMap Table.userTypes,
      ∃ type, earlier.types.resolve handle = some type := by
    intro handle used
    obtain ⟨table, member, entry, inside, mentioned⟩ := Table.mem_flatMap_userTypes_iff.1 used
    exact laws.resolved table member entry inside handle mentioned
  have same := growth.types.needed_eq laws.types laterLaws.types own
  rw [Catalog.plan, Plan.ofTables_congr same]

/-- Without further tables the plan stays as it was. -/
theorem plan_eq (growth : later.Extends earlier) (laws : earlier.WellFormed)
    (laterLaws : later.WellFormed) (noTables : later.tables.size ≤ earlier.tables.size) :
    later.plan keyspace = earlier.plan keyspace := by
  have sameTables := growth.tables.eq_of_length_le noTables
  rw [Catalog.plan, ← sameTables]
  exact growth.ofTables_eq laws laterLaws

/-- What is refused stays refused with the same error. -/
theorem plan_eq_error (growth : later.Extends earlier) (laws : earlier.WellFormed)
    (laterLaws : later.WellFormed) {error : SchemaError}
    (failed : earlier.plan keyspace = .error error) : later.plan keyspace = .error error := by
  have refused := (Plan.ofTables_eq_error laws.types).1 failed
  refine (Plan.ofTables_eq_error laterLaws.types).2 ?_
  obtain ⟨added, whole⟩ := growth.tables
  rw [← whole]
  cases refused with
  | keyspace invalid => exact .keyspace invalid
  | table identifier first faulty => exact .table identifier (first.append added) faulty
  | handle identifier clean first =>
    -- The columns of a catalog mention only its own types, so no handle is ever reported.
    have accepted := not_refused_iff.2 ⟨identifier, clean, laws.resolved⟩
    exact absurd (.handle identifier clean first) (accepted _)

/-- The larger plan creates the earlier tables first and the earlier types in the same order. -/
theorem plan_part (growth : later.Extends earlier) (laws : earlier.WellFormed)
    (laterLaws : later.WellFormed) {plan larger : Plan}
    (planned : earlier.plan keyspace = .ok plan) (grown : later.plan keyspace = .ok larger) :
    plan.tables <+: larger.tables ∧ plan.types.Sublist larger.types := by
  obtain ⟨-, -, needed, found, rfl⟩ := plan_eq_ok.1 planned
  obtain ⟨-, -, laterNeeded, laterFound, rfl⟩ := plan_eq_ok.1 grown
  have used : earlier.tables.tables.flatMap Table.userTypes ⊆
      later.tables.tables.flatMap Table.userTypes := by
    intro handle listed
    obtain ⟨table, member, inside⟩ := List.mem_flatMap.1 listed
    exact List.mem_flatMap.2 ⟨table, growth.tables.subset member, inside⟩
  have types := growth.types.needed_sublist laws.types laterLaws.types used found laterFound
  exact ⟨growth.tables.map _, types.map _⟩

end Extends

/-- Further calls, carried out or refused, leave an error of a plan as it is, and extend a plan by
tables at its end and types in between; without further tables they change nothing. The types that
they add give the earlier tables the plan that these had. -/
theorem plan_performAll {catalog : Catalog} (reachable : catalog.Reachable) (calls : List Call)
    (keyspace : String) :
    (∀ error, catalog.plan keyspace = .error error →
      (catalog.performAll calls).plan keyspace = .error error) ∧
    (∀ plan larger, catalog.plan keyspace = .ok plan →
      (catalog.performAll calls).plan keyspace = .ok larger →
        plan.tables <+: larger.tables ∧ plan.types.Sublist larger.types) ∧
    ((catalog.performAll calls).tables.size ≤ catalog.tables.size →
      (catalog.performAll calls).plan keyspace = catalog.plan keyspace) ∧
    Plan.ofTables keyspace (catalog.performAll calls).types catalog.tables.tables =
      catalog.plan keyspace := by
  have growth := catalog.extends_performAll calls
  have laws := reachable.wellFormed
  have laterLaws := (reachable.performAll calls).wellFormed
  refine ⟨?_, ?_, ?_, growth.ofTables_eq laws laterLaws⟩
  · intro error failed
    exact growth.plan_eq_error laws laterLaws failed
  · intro plan larger planned grown
    exact growth.plan_part laws laterLaws planned grown
  · intro noTables
    exact growth.plan_eq laws laterLaws noTables

/-- A refused table and a table of the second of three types extend the plan of a table that uses
the other two; a further type alone does not change it. In a keyspace that is no identifier the
error stays. -/
theorem plan_after_second_table :
    let catalog := empty.performAll
      [.declareType "Point" [("x", .scalar false .int)],
        .declareType "Spare" [("y", .scalar false .int)],
        .declareType "Path" [("points", .list true (.user false ⟨0, "Point"⟩))],
        .declareTable ⟨"t", none, [("p", .partition (.scalar false .int)),
          ("q", .regular (.user false ⟨2, "Path"⟩))]⟩]
    let calls : List Call := [.declareTable ⟨"T", none, []⟩,
      .declareTable ⟨"u", none, [("p", .partition (.user true ⟨1, "Spare"⟩))]⟩]
    let further : List Call := [.declareType "Late" [("z", .scalar false .text)]]
    ∃ plan larger, catalog.plan "ks" = .ok plan ∧
      (catalog.performAll calls).plan "ks" = .ok larger ∧
      plan.tables.length = 1 ∧ larger.tables.length = 2 ∧
      plan.tables <+: larger.tables ∧ plan.types.Sublist larger.types ∧
      (catalog.performAll further).types.size = 4 ∧
      (catalog.performAll further).plan "ks" = .ok plan ∧
      (catalog.performAll calls).plan "1ks" = .error (.invalidName "1ks" .keyspace) := by
  intro catalog calls further
  have reachable : catalog.Reachable := ⟨_, rfl⟩
  have laterReachable := reachable.performAll calls
  obtain ⟨plan, planned⟩ :=
    reachable.wellFormed.exists_plan (by decide : isIdentifier "ks" = true) (by decide)
  obtain ⟨larger, grown⟩ :=
    laterReachable.wellFormed.exists_plan (by decide : isIdentifier "ks" = true) (by decide)
  have count : plan.tables.length = 1 := by
    rw [length_tables_of_plan planned]
    decide
  have laterCount : larger.tables.length = 2 := by
    rw [length_tables_of_plan grown]
    decide
  obtain ⟨-, parts, -, -⟩ := plan_performAll reachable calls "ks"
  obtain ⟨-, -, same, -⟩ := plan_performAll reachable further "ks"
  have invalid : catalog.plan "1ks" = .error (.invalidName "1ks" .keyspace) := by decide
  obtain ⟨first, among⟩ := parts plan larger planned grown
  refine ⟨plan, larger, planned, grown, count, laterCount, first, among, by decide, ?_, ?_⟩
  · rw [same (by decide), planned]
  · exact (plan_performAll reachable calls "1ks").1 _ invalid

end Catalog

end CqlSchema
