import CqlSchema.Proofs.Catalog.Run
import CqlSchema.Proofs.Plan.Synthesis
import CqlSchema.Proofs.Table.Fault
import CqlSchema.Proofs.TypeRegistry.Closure
/-!
# When synthesis is refused, and what is reported

A synthesis looks at the keyspace first, then at every table in order, and at the handles of all
columns last. `Refused` says which error wins when several things are wrong at once. Over a
registry that declarations build the types that a declared type depends on always resolve, so
nothing but a handle of a column can be reported at the end, and no handle of a catalog is.
-/

namespace CqlSchema

open Outcome

/-- Errors with which the synthesis of tables over a registry is refused. -/
inductive Refused (keyspace : String) (types : TypeRegistry) (tables : List Table) :
    SchemaError → Prop where
  /-- A keyspace that is no identifier is reported before anything else. -/
  | keyspace : isIdentifier keyspace = false →
      Refused keyspace types tables (.invalidName keyspace .keyspace)
  /-- The fault of the first table that has one is reported. -/
  | table {table : Table} {after : List Table} {error : SchemaError} :
      isIdentifier keyspace = true →
      IsFirst (fun table => ∃ error, table.Faulty error) tables table after →
      table.Faulty error → Refused keyspace types tables error
  /-- Where no table has a fault, the last handle of a column that does not resolve is reported:
  the first of all handles read from the end. -/
  | handle {handle : Handle} {before : List Handle} :
      isIdentifier keyspace = true → (∀ table ∈ tables, ∀ error, ¬ table.Faulty error) →
      IsFirst (types.resolves · = false) (tables.flatMap Table.userTypes).reverse handle before →
      Refused keyspace types tables (.invalidType handle.name .undeclared)

variable {keyspace : String} {types : TypeRegistry} {tables : List Table}

/-- The first fault that is found is the fault of the first table that has one. -/
theorem findSome?_fault_eq_some_iff {error : SchemaError} :
    tables.findSome? Table.fault? = some error ↔
      ∃ table after, IsFirst (fun table => ∃ error, table.Faulty error) tables table after ∧
        table.Faulty error := by
  rw [List.findSome?_eq_some_iff]
  constructor
  · rintro ⟨before, table, after, shape, found, clean⟩
    have faulty := Table.fault?_eq_some_iff.1 found
    refine ⟨table, after, ⟨before, shape, ⟨_, faulty⟩, ?_⟩, faulty⟩
    rintro earlier member ⟨fault, other⟩
    exact Table.fault?_eq_none_iff.1 (clean earlier member) fault other
  · rintro ⟨table, after, ⟨before, shape, -, clean⟩, faulty⟩
    refine ⟨before, table, after, shape, Table.fault?_eq_some_iff.2 faulty, ?_⟩
    intro earlier member
    exact Table.fault?_eq_none_iff.2 fun fault other => clean earlier member ⟨fault, other⟩

/-- Making a plan over a well-formed registry fails exactly with the errors with which it is
refused. -/
theorem Plan.ofTables_eq_error (laws : types.WellFormed) {error : SchemaError} :
    Plan.ofTables keyspace types tables = .error error ↔ Refused keyspace types tables error := by
  cases identifier : isIdentifier keyspace with
  | false =>
    rw [ofTables_of_invalid identifier]
    constructor
    · intro failed
      cases failed
      exact .keyspace identifier
    · intro refused
      cases refused with
      | keyspace _ => rfl
      | table valid _ _ => rw [identifier] at valid; cases valid
      | handle valid _ _ => rw [identifier] at valid; cases valid
  | true =>
    rw [ofTables_eq identifier, map_eq_error, requiredTypes]
    cases found : tables.findSome? Table.fault? with
    | some fault =>
      obtain ⟨table, after, first, faulty⟩ := findSome?_fault_eq_some_iff.1 found
      constructor
      · intro failed
        cases failed
        exact .table identifier first faulty
      · intro refused
        cases refused with
        | keyspace invalid => rw [identifier] at invalid; cases invalid
        | table _ otherFirst otherFaulty =>
          have same := findSome?_fault_eq_some_iff.2 ⟨_, _, otherFirst, otherFaulty⟩
          rw [Option.some.inj (found.symm.trans same)]
        | handle _ clean _ => exact absurd faulty (clean table first.mem_and_holds.1 fault)
    | none =>
      have clean : ∀ table ∈ tables, ∀ error, ¬ table.Faulty error := by
        intro table member
        exact Table.fault?_eq_none_iff.1 (List.findSome?_eq_none_iff.1 found table member)
      constructor
      · intro failed
        obtain ⟨handle, before, first, rfl⟩ := laws.needed_eq_error.1 failed
        exact .handle identifier clean first
      · intro refused
        cases refused with
        | keyspace invalid => rw [identifier] at invalid; cases invalid
        | table _ first faulty => exact absurd faulty (clean _ first.mem_and_holds.1 _)
        | handle _ _ first => exact laws.needed_eq_error.2 ⟨_, _, first, rfl⟩

/-- Nothing is refused exactly when the keyspace is an identifier, no table has a fault and every
handle of a column resolves. -/
theorem not_refused_iff :
    (∀ error, ¬ Refused keyspace types tables error) ↔
      isIdentifier keyspace = true ∧ (∀ table ∈ tables, ∀ error, ¬ table.Faulty error) ∧
        ∀ table ∈ tables, ∀ entry ∈ table.columns, ∀ handle, entry.2.type.Mentions handle →
          ∃ type, types.resolve handle = some type := by
  constructor
  · intro accepted
    have identifier : isIdentifier keyspace = true := by
      by_contra invalid
      exact accepted _ (.keyspace (Bool.not_eq_true _ ▸ invalid))
    have clean : ∀ table ∈ tables, ∀ error, ¬ table.Faulty error := by
      intro table member error faulty
      have present : ∃ table ∈ tables, ∃ error, table.Faulty error :=
        ⟨table, member, error, faulty⟩
      obtain ⟨found, after, first⟩ := exists_isFirst_iff.2 present
      obtain ⟨-, other, otherFaulty⟩ := first.mem_and_holds
      exact accepted other (.table identifier first otherFaulty)
    refine ⟨identifier, clean, fun table member entry inside handle mentioned => ?_⟩
    rw [← Option.isSome_iff_exists]
    by_contra unresolved
    have listed := Table.mem_flatMap_userTypes_iff.2 ⟨table, member, entry, inside, mentioned⟩
    have present : ∃ handle ∈ (tables.flatMap Table.userTypes).reverse,
        types.resolves handle = false :=
      ⟨handle, List.mem_reverse.2 listed, Bool.not_eq_true _ ▸ unresolved⟩
    obtain ⟨last, before, first⟩ := exists_isFirst_iff.2 present
    exact accepted _ (.handle identifier clean first)
  · rintro ⟨identifier, clean, resolved⟩ error refused
    cases refused with
    | keyspace invalid => rw [identifier] at invalid; cases invalid
    | table _ first faulty => exact clean _ first.mem_and_holds.1 _ faulty
    | handle _ _ first =>
      obtain ⟨listed, unresolved⟩ := first.mem_and_holds
      obtain ⟨table, member, entry, inside, mentioned⟩ :=
        Table.mem_flatMap_userTypes_iff.1 (List.mem_reverse.1 listed)
      have known := Option.isSome_iff_exists.2
        (resolved table member entry inside _ mentioned)
      rw [← TypeRegistry.resolves, unresolved] at known
      cases known

/-- There is a plan of tables exactly when nothing is refused. -/
theorem Plan.exists_ofTables_iff (laws : types.WellFormed) :
    (∃ plan, Plan.ofTables keyspace types tables = .ok plan) ↔
      ∀ error, ¬ Refused keyspace types tables error := by
  simp only [← Plan.ofTables_eq_error laws]
  cases Plan.ofTables keyspace types tables with
  | error error => simp
  | ok plan => simp

/-- A well-formed catalog without faulty tables has a plan in every valid keyspace. -/
theorem Catalog.WellFormed.exists_plan {catalog : Catalog} (laws : catalog.WellFormed)
    (identifier : isIdentifier keyspace = true)
    (clean : ∀ table ∈ catalog.tables.tables, table.fault? = none) :
    ∃ plan, catalog.plan keyspace = .ok plan := by
  refine (Plan.exists_ofTables_iff laws.types).2 ?_
  refine not_refused_iff.2 ⟨identifier, fun table member => ?_, laws.resolved⟩
  exact Table.fault?_eq_none_iff.1 (clean table member)

/-- The columns of a reachable catalog mention only its own types, so no refusal of its plan in a
valid keyspace is an error of its declaration. -/
theorem Catalog.Reachable.isDeclaration_of_refused {catalog : Catalog}
    (reachable : catalog.Reachable) (identifier : isIdentifier keyspace = true)
    {error : SchemaError}
    (refused : Refused keyspace catalog.types catalog.tables.tables error) :
    error.isDeclaration = false := by
  cases refused with
  | keyspace invalid => rw [identifier] at invalid; cases invalid
  | table _ _ faulty => exact faulty.isDeclaration
  | handle _ clean first =>
    have accepted := not_refused_iff.2
      ⟨identifier, clean, reachable.wellFormed.resolved⟩
    exact absurd (.handle identifier clean first) (accepted _)

/-- Over a registry that declarations build, tables have a plan exactly when the keyspace is an
identifier, no table has a fault and every handle of a column resolves; else the error that wins
is reported. A catalog that is refused in a valid keyspace was declared without an error. -/
theorem plan_or_culprit (reachable : types.Reachable) (keyspace : String)
    (tables : List Table) :
    (∀ error, Plan.ofTables keyspace types tables = .error error ↔
      Refused keyspace types tables error) ∧
    ((∃ plan, Plan.ofTables keyspace types tables = .ok plan) ↔
      isIdentifier keyspace = true ∧ (∀ table ∈ tables, ∀ error, ¬ table.Faulty error) ∧
        ∀ table ∈ tables, ∀ entry ∈ table.columns, ∀ handle, entry.2.type.Mentions handle →
          ∃ type, types.resolve handle = some type) ∧
    ∀ catalog : Catalog, catalog.Reachable → isIdentifier keyspace = true →
      ∀ error, catalog.plan keyspace = .error error → error.isDeclaration = false := by
  have laws := reachable.wellFormed
  refine ⟨fun error => Plan.ofTables_eq_error laws, ?_, ?_⟩
  · rw [Plan.exists_ofTables_iff laws, not_refused_iff]
  · intro catalog built identifier error failed
    have refused := (Plan.ofTables_eq_error built.wellFormed.types).1 failed
    exact built.isDeclaration_of_refused identifier refused

/-- Of a foreign handle in the first table, an order after a column without one in the second,
and bad nesting in the third, the fault of the second table is reported. Without the two faulty
tables the last foreign handle is. A catalog with a table that has no partition key is refused
without an error of its declaration. -/
theorem culprits_of_faulty_tables :
    let registry := (TypeRegistry.empty.declare "Point" [("x", .scalar false .int)]).1
    let foreign : Table := ⟨"a", [("p", .partition (.scalar false .int)),
      ("q", .regular (.map true (.user false ⟨1, "Ghost"⟩) (.user false ⟨0, "Spirit"⟩))),
      ("r", .regular (.user false ⟨0, "Point"⟩))]⟩
    let disordered : Table := ⟨"b", [("p", .partition (.scalar false .int)),
      ("c", .clustering (.scalar false .int) .undefined),
      ("d", .clustering (.scalar false .int) .undefined),
      ("e", .clustering (.scalar false .int) .descending)]⟩
    let nested : Table := ⟨"c", [("v", .regular (.list false (.set false (.scalar false .int))))]⟩
    let catalog := Catalog.empty.performAll
      [.declareTable ⟨"t", none, [("c", .clustering (.scalar false .int) .ascending)]⟩]
    registry.Reachable ∧
      Plan.ofTables "ks" registry [foreign, disordered, nested] =
        .error (.inconsistentClusteringOrder "b" "e" "c") ∧
      Plan.ofTables "ks" registry [foreign] = .error (.invalidType "Spirit" .undeclared) ∧
      catalog.Reachable ∧ catalog.plan "ks" = .error (.missingPartitionKey "t") ∧
      (SchemaError.missingPartitionKey "t").isDeclaration = false := by
  intro registry foreign disordered nested catalog
  have reachable : registry.Reachable := .declare _ _ .empty
  have clean : ∀ error, ¬ foreign.Faulty error := Table.fault?_eq_none_iff.1 (by decide)
  have faulty : disordered.Faulty (.inconsistentClusteringOrder "b" "e" "c") :=
    Table.fault?_eq_some_iff.1 (by decide)
  have second : IsFirst (fun table => ∃ error, table.Faulty error)
      [foreign, disordered, nested] disordered [nested] := by
    refine ⟨[foreign], rfl, ⟨_, faulty⟩, ?_⟩
    rintro table member ⟨error, found⟩
    obtain rfl := List.mem_singleton.1 member
    exact clean error found
  have last : IsFirst (registry.resolves · = false)
      ([foreign].flatMap Table.userTypes).reverse ⟨0, "Spirit"⟩ [⟨1, "Ghost"⟩] := by
    refine ⟨[⟨0, "Point"⟩], by decide, by decide, ?_⟩
    intro handle member
    obtain rfl := List.mem_singleton.1 member
    decide
  have alone : ∀ table ∈ [foreign], ∀ error, ¬ table.Faulty error := by
    intro table member
    obtain rfl := List.mem_singleton.1 member
    exact clean
  have orphaned : catalog.plan "ks" = .error (.missingPartitionKey "t") := by decide
  refine ⟨reachable, ?_, ?_, ⟨_, rfl⟩, orphaned, ?_⟩
  · exact ((plan_or_culprit reachable "ks" _).1 _).2 (.table (by decide) second faulty)
  · exact ((plan_or_culprit reachable "ks" _).1 _).2 (.handle (by decide) alone last)
  · exact (plan_or_culprit reachable "ks" []).2.2 catalog ⟨_, rfl⟩ (by decide) _ orphaned

end CqlSchema
