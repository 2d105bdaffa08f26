import CqlSchema.Proofs.Plan.Refusal
import Mathlib.Logic.Relation
/-!
# How far the check of nesting reaches

A column stores more than its own type shows: the value of an unfrozen user defined type holds the
values of its fields, and so on through their types. `Reaches` follows a type through elements of
unfrozen collections and through fields of unfrozen user defined types, and stops at everything
frozen. A synthesis checks the types of columns and no fields. In a type that is checked the way
through elements ends at once, so bad nesting is left exactly in chains of fields.
-/

namespace CqlSchema

open Outcome

namespace DataType

/-! ## Ways down -/

/-- An unfrozen user defined type holds the types of its fields. -/
inductive HasField (types : TypeRegistry) : DataType → DataType → Prop where
  | field {handle : Handle} {declared : UserType} {field : String × DataType} :
      types.resolve handle = some declared → field ∈ declared.fields →
      HasField types (.user false handle) field.2

/-- One step down that crosses nothing frozen. -/
inductive Enters (types : TypeRegistry) : DataType → DataType → Prop where
  | element {type element : DataType} :
      type.isCollection = true → type.isFrozen = false → element ∈ type.elements →
      Enters types type element
  | field {type field : DataType} : HasField types type field → Enters types type field

/-- Steps down that cross nothing frozen. -/
def Reaches (types : TypeRegistry) : DataType → DataType → Prop :=
  Relation.ReflTransGen (Enters types)

variable {types : TypeRegistry} {type inner : DataType}

/-- Only loose types have anything below them. -/
theorem Enters.isLoose (enters : Enters types type inner) : type.isLoose = true := by
  cases enters with
  | element collection unfrozen _ => simp only [DataType.isLoose, collection, unfrozen]; rfl
  | field held =>
    cases held with
    | field _ _ => rfl

/-- A type that nests badly is itself loose. -/
theorem NestsBadly.isLoose (bad : type.NestsBadly) : type.isLoose = true := by
  obtain ⟨inner, exposed, -⟩ := bad
  have enters : ∃ element, Enters .empty type element := by
    cases exposed with
    | element collection unfrozen member => exact ⟨_, .element collection unfrozen member⟩
    | deeper collection unfrozen member _ => exact ⟨_, .element collection unfrozen member⟩
  obtain ⟨element, entered⟩ := enters
  exact entered.isLoose

/-- A type from which fields lead to bad nesting is itself loose. -/
theorem isLoose_of_fields (chain : Relation.ReflTransGen (HasField types) type inner)
    (bad : inner.NestsBadly) : type.isLoose = true := by
  rcases chain.cases_head with rfl | ⟨next, first, -⟩
  · exact bad.isLoose
  · exact (Enters.field first).isLoose

/-- Bad nesting that is reached at all is reached through fields alone. -/
theorem exists_fields_of_reaches (reached : Reaches types type inner) (bad : inner.NestsBadly) :
    ∃ found, Relation.ReflTransGen (HasField types) type found ∧ found.NestsBadly := by
  induction reached using Relation.ReflTransGen.head_induction_on with
  | refl => exact ⟨inner, .refl, bad⟩
  | @head outer next enters _ ih =>
    obtain ⟨found, chain, foundBad⟩ := ih
    cases enters with
    | field held => exact ⟨found, .head held chain, foundBad⟩
    | element collection unfrozen member =>
      -- An element with anything bad below it is loose, so the collection nests badly itself.
      have loose := isLoose_of_fields chain foundBad
      exact ⟨outer, .refl, next, .element collection unfrozen member, loose⟩

/-- Fields of unfrozen types are reached. -/
theorem reaches_of_fields (chain : Relation.ReflTransGen (HasField types) type inner) :
    Reaches types type inner :=
  Relation.ReflTransGen.mono (fun _ _ held => Enters.field held) _ _ chain

end DataType

namespace Table

/-! ## Columns of a table -/

/-- A table without a fault has no column that nests badly. -/
theorem not_nestsBadly {table : Table} (clean : table.fault? = none) :
    ∀ entry ∈ table.columns, ¬ entry.2.type.NestsBadly := by
  intro entry inside bad
  have present : ∃ entry ∈ table.columns, entry.2.type.NestsBadly := ⟨entry, inside, bad⟩
  obtain ⟨first, others, found⟩ := exists_isFirst_iff.2 present
  exact fault?_eq_none_iff.1 clean _ (.nesting found)

/-- Bad nesting is the fault of a table exactly when a column nests badly, and the first one is
named. -/
theorem faulty_nonFrozenNesting_iff {table : Table} {name column : String} {type : DataType} :
    table.Faulty (.nonFrozenNesting name column type) ↔
      ∃ entry others, IsFirst (fun entry => entry.2.type.NestsBadly) table.columns entry others ∧
        table.name = name ∧ entry.1 = column ∧ entry.2.type = type := by
  constructor
  · intro faulty
    cases faulty with
    | nesting first => exact ⟨_, _, first, rfl, rfl, rfl⟩
  · rintro ⟨entry, others, first, rfl, rfl, rfl⟩
    exact .nesting first

end Table

namespace Catalog

open DataType

/-! ## Columns of a catalog -/

/-- Nothing that the columns of a catalog reach nests badly. -/
def Protected (catalog : Catalog) : Prop :=
  ∀ table ∈ catalog.tables.tables, ∀ entry ∈ table.columns, ∀ inner,
    Reaches catalog.types entry.2.type inner → ¬ inner.NestsBadly

/-- A catalog is protected when no field of a column, nor the column itself, nests badly. -/
theorem protected_iff {catalog : Catalog} :
    catalog.Protected ↔
      (∀ table ∈ catalog.tables.tables, ∀ entry ∈ table.columns, ¬ entry.2.type.NestsBadly) ∧
      ∀ table ∈ catalog.tables.tables, ∀ entry ∈ table.columns, ∀ field,
        Relation.TransGen (HasField catalog.types) entry.2.type field → ¬ field.NestsBadly := by
  constructor
  · intro safe
    refine ⟨?_, ?_⟩
    · intro table member entry inside
      exact safe table member entry inside _ .refl
    · intro table member entry inside field chain
      exact safe table member entry inside _ (reaches_of_fields chain.to_reflTransGen)
  · rintro ⟨columns, fields⟩ table member entry inside inner reached bad
    obtain ⟨found, chain, foundBad⟩ := exists_fields_of_reaches reached bad
    rcases Relation.reflTransGen_iff_eq_or_transGen.1 chain with rfl | further
    · exact columns table member entry inside foundBad
    · exact fields table member entry inside found further foundBad

/-- Where there is a plan, no column nests badly, and the catalog is protected exactly when no chain
of fields leads from a column to a field that does. Bad nesting is reported exactly when the first
faulty table has a column that nests badly, and the first such column is named. -/
theorem plan_checks_columns {catalog : Catalog} (reachable : catalog.Reachable)
    (keyspace : String) :
    (∀ plan, catalog.plan keyspace = .ok plan →
      (∀ table ∈ catalog.tables.tables, ∀ entry ∈ table.columns, ¬ entry.2.type.NestsBadly) ∧
      (catalog.Protected ↔
        ∀ table ∈ catalog.tables.tables, ∀ entry ∈ table.columns, ∀ field,
          Relation.TransGen (HasField catalog.types) entry.2.type field →
            ¬ field.NestsBadly)) ∧
    ∀ name column type,
      catalog.plan keyspace = .error (.nonFrozenNesting name column type) ↔
        isIdentifier keyspace = true ∧ ∃ table after entry others,
          IsFirst (fun table => ∃ error, table.Faulty error) catalog.tables.tables table after ∧
          IsFirst (fun entry => entry.2.type.NestsBadly) table.columns entry others ∧
          table.name = name ∧ entry.1 = column ∧ entry.2.type = type := by
  refine ⟨?_, ?_⟩
  · intro plan planned
    obtain ⟨-, clean, -⟩ := plan_eq_ok.1 planned
    have columns : ∀ table ∈ catalog.tables.tables, ∀ entry ∈ table.columns,
        ¬ entry.2.type.NestsBadly := by
      intro table member
      exact Table.not_nestsBadly (clean table member)
    refine ⟨columns, ?_⟩
    rw [protected_iff]
    exact and_iff_right columns
  · intro name column type
    rw [plan, Plan.ofTables_eq_error reachable.wellFormed.types]
    constructor
    · intro refused
      cases refused with
      | table identifier first faulty =>
        obtain ⟨entry, others, firstColumn, same⟩ := Table.faulty_nonFrozenNesting_iff.1 faulty
        exact ⟨identifier, _, _, entry, others, first, firstColumn, same⟩
    · rintro ⟨identifier, table, after, entry, others, first, firstColumn, same⟩
      exact .table identifier first
        (Table.faulty_nonFrozenNesting_iff.2 ⟨entry, others, firstColumn, same⟩)

/-- A frozen type with a field that nests badly is safe in a column, and bad nesting in the third
column of the second table is reported. -/
theorem plan_of_frozen_field :
    let grid : List (String × DataType) :=
      [("rows", .list false (.list false (.scalar false .int)))]
    let catalog := empty.performAll [.declareType "Grid" grid,
      .declareTable ⟨"t", none, [("p", .partition (.scalar false .int)),
        ("g", .regular (.user true ⟨0, "Grid"⟩))]⟩]
    let larger := catalog.performAll
      [.declareTable ⟨"u", none, [("p", .partition (.scalar false .int)),
        ("v", .regular (.list false (.user true ⟨0, "Grid"⟩))),
        ("w", .regular (.list false (.user false ⟨0, "Grid"⟩)))]⟩]
    (∃ plan, catalog.plan "ks" = .ok plan) ∧ catalog.Protected ∧
      larger.plan "ks" =
        .error (.nonFrozenNesting "u" "w" (.list false (.user false ⟨0, "Grid"⟩))) ∧
      ∃ (table : Table) (entry : String × Column) (others : Entries Column),
        table.name = "u" ∧ entry.1 = "w" ∧
          IsFirst (fun entry => entry.2.type.NestsBadly) table.columns entry others := by
  intro grid catalog larger
  have reachable : catalog.Reachable := ⟨_, rfl⟩
  obtain ⟨plan, planned⟩ :=
    reachable.wellFormed.exists_plan (by decide : isIdentifier "ks" = true) (by decide)
  obtain ⟨-, safe⟩ := (plan_checks_columns reachable "ks").1 plan planned
  refine ⟨⟨plan, planned⟩, safe.2 ?_, ?_⟩
  · intro table member entry inside field chain
    have tight : ∀ table ∈ catalog.tables.tables, ∀ entry ∈ table.columns,
        entry.2.type.isLoose = false := by decide
    obtain ⟨next, held, -⟩ := Relation.TransGen.head'_iff.1 chain
    have loose := (Enters.field held).isLoose
    rw [tight table member entry inside] at loose
    cases loose
  · have reported : larger.plan "ks" =
        .error (.nonFrozenNesting "u" "w" (.list false (.user false ⟨0, "Grid"⟩))) := by decide
    obtain ⟨-, table, after, entry, others, -, first, named, column, -⟩ :=
      ((plan_checks_columns (reachable.performAll _ : larger.Reachable) "ks").2 _ _ _).1 reported
    exact ⟨reported, table, entry, others, named, column, first⟩

/-- A catalog has a plan although a field of the unfrozen type of a column nests badly. -/
theorem plan_of_unprotected :
    let catalog := empty.performAll
      [.declareType "Grid" [("rows", .list false (.list false (.scalar false .int)))],
        .declareTable ⟨"t", none, [("p", .partition (.scalar false .int)),
          ("g", .regular (.user false ⟨0, "Grid"⟩))]⟩]
    catalog.Reachable ∧ (∃ plan, catalog.plan "ks" = .ok plan) ∧ ¬ catalog.Protected := by
  intro catalog
  have reachable : catalog.Reachable := ⟨_, rfl⟩
  refine ⟨reachable, reachable.wellFormed.exists_plan (by decide) (by decide), ?_⟩
  intro safe
  let rows : DataType := .list false (.list false (.scalar false .int))
  let column : Column := .regular (.user false ⟨0, "Grid"⟩)
  let table : Table := ⟨"t", [("p", .partition (.scalar false .int)), ("g", column)]⟩
  have declared : table ∈ catalog.tables.tables := by decide
  have inside : ("g", column) ∈ table.columns := by decide
  have resolved : catalog.types.resolve ⟨0, "Grid"⟩ = some ⟨0, "Grid", [("rows", rows)]⟩ := by
    decide
  have written : ("rows", rows) ∈ [("rows", rows)] := List.mem_cons_self
  have held : HasField catalog.types column.type rows := .field resolved written
  have bad : rows.NestsBadly := DataType.isSome_nonFrozenNesting_iff.1 rfl
  exact safe table declared ("g", column) inside rows (.single (.field held)) bad

end Catalog

end CqlSchema
