import CqlSchema.Proofs.Catalog.Run
import CqlSchema.Proofs.Plan.Synthesis
import CqlSchema.Proofs.Statement
import CqlSchema.Proofs.TypeRegistry.Closure
/-!
# What a plan creates, and in which order

A plan creates the types that the tables of its catalog require, through any chain of fields
and nested collections, and no others; then it creates the tables. Types stand in declaration
order, which is an order of dependencies since a type mentions only types with a smaller number.
Names are kept apart by the registries, so no statement stands twice.
-/

namespace CqlSchema

namespace Catalog

/-- A catalog uses the handles that stand in columns of its tables. -/
def Uses (catalog : Catalog) (handle : Handle) : Prop :=
  ∃ table ∈ catalog.tables.tables, ∃ entry ∈ table.columns, entry.2.type.Mentions handle

/-- A catalog requires the types that its tables use, and those that they need in turn. -/
def Requires (catalog : Catalog) (type : UserType) : Prop :=
  catalog.types.Needs catalog.Uses type

/-- The handles of the tables are those that the catalog uses. -/
theorem mem_userTypes_iff {catalog : Catalog} {handle : Handle} :
    handle ∈ catalog.tables.tables.flatMap Table.userTypes ↔ catalog.Uses handle :=
  Table.mem_flatMap_userTypes_iff

end Catalog

namespace Plan

/-- A plan that creates the given types of a catalog, and all its tables, in a keyspace. -/
structure Creates (plan : Plan) (keyspace : String) (catalog : Catalog)
    (created : List UserType) : Prop where
  /-- The statements for types are those of the created types, in order. -/
  types_eq : plan.types = created.map fun type => (Statement.createType keyspace type).text
  /-- The statements for tables are those of all tables, in declaration order. -/
  tables_eq : plan.tables = catalog.tables.tables.map fun table =>
    (Statement.createTable keyspace table).text
  /-- All statements for types stand before all statements for tables. -/
  statements_eq : plan.statements = plan.types ++ plan.tables
  /-- The created types stand in declaration order. -/
  declared : created.Sublist catalog.types.types
  /-- The created types are exactly those that the tables require. -/
  required : ∀ type, type ∈ created ↔ catalog.Requires type
  /-- No statement stands twice. -/
  distinct : plan.statements.Nodup
  /-- What a field of a created type mentions is created before that type. -/
  fields_before : ∀ type ∈ created, ∀ position : Nat,
    plan.types[position]? = some (Statement.createType keyspace type).text →
    ∀ field ∈ type.fields, ∀ handle, field.2.Mentions handle →
      ∃ dependency, catalog.types.resolve handle = some dependency ∧
        ∃ earlier < position,
          plan.types[earlier]? = some (Statement.createType keyspace dependency).text
  /-- What a column of a table mentions is created before that table. -/
  columns_before : ∀ table ∈ catalog.tables.tables, ∀ position : Nat,
    plan.statements[position]? = some (Statement.createTable keyspace table).text →
    ∀ entry ∈ table.columns, ∀ handle, entry.2.type.Mentions handle →
      ∃ dependency, catalog.types.resolve handle = some dependency ∧
        ∃ earlier < position,
          plan.statements[earlier]? = some (Statement.createType keyspace dependency).text

end Plan

namespace Catalog

open Plan

variable {catalog : Catalog} {keyspace : String}

/-! ## Statements of a catalog -/

/-- Statements for the types of a well-formed catalog are well named. -/
theorem WellFormed.createType_wellNamed (laws : catalog.WellFormed)
    (identifier : isIdentifier keyspace = true) {type : UserType}
    (member : type ∈ catalog.types.types) :
    (Statement.createType keyspace type).WellNamed :=
  ⟨identifier, laws.types.identifiers type member⟩

/-- Statements for the tables of a well-formed catalog are well named. -/
theorem WellFormed.createTable_wellNamed (laws : catalog.WellFormed)
    (identifier : isIdentifier keyspace = true) {table : Table}
    (member : table ∈ catalog.tables.tables) :
    (Statement.createTable keyspace table).WellNamed :=
  ⟨identifier, laws.tables.identifiers table member⟩

/-- The text of a statement tells the declared type that it creates. -/
theorem WellFormed.createType_inj (laws : catalog.WellFormed)
    (identifier : isIdentifier keyspace = true) {first second : UserType}
    (firstMember : first ∈ catalog.types.types) (secondMember : second ∈ catalog.types.types)
    (same : (Statement.createType keyspace first).text =
      (Statement.createType keyspace second).text) : first = second := by
  obtain ⟨-, -, names, -⟩ :=
    (laws.createType_wellNamed identifier firstMember).parts_of_text_eq
      (laws.createType_wellNamed identifier secondMember) same
  exact laws.types.eq_of_fold_eq firstMember secondMember (congrArg Text.fold names)

/-- The text of a statement tells the declared table that it creates. -/
theorem WellFormed.createTable_inj (laws : catalog.WellFormed)
    (identifier : isIdentifier keyspace = true) {first second : Table}
    (firstMember : first ∈ catalog.tables.tables) (secondMember : second ∈ catalog.tables.tables)
    (same : (Statement.createTable keyspace first).text =
      (Statement.createTable keyspace second).text) : first = second := by
  obtain ⟨-, -, names, -⟩ :=
    (laws.createTable_wellNamed identifier firstMember).parts_of_text_eq
      (laws.createTable_wellNamed identifier secondMember) same
  exact laws.tables.eq_of_fold_eq firstMember secondMember (congrArg Text.fold names)

/-- No statement for a type has the text of a statement for a table. -/
theorem createType_ne_createTable (keyspace : String) (type : UserType) (table : Table) :
    (Statement.createType keyspace type).text ≠ (Statement.createTable keyspace table).text := by
  intro same
  have letters := congrArg String.toList same
  rw [Statement.toList_text, Statement.toList_text] at letters
  have openings := (Statement.opening_append_inj letters).1
  simp [Statement.opening] at openings

/-- Statements for declared types and for all tables do not repeat. -/
theorem WellFormed.nodup_texts (laws : catalog.WellFormed)
    (identifier : isIdentifier keyspace = true) {created : List UserType}
    (declared : created.Sublist catalog.types.types) :
    ((created.map fun type => (Statement.createType keyspace type).text) ++
      catalog.tables.tables.map fun table =>
        (Statement.createTable keyspace table).text).Nodup := by
  have types : created.Nodup := (List.Nodup.of_map _ laws.types.distinct).sublist declared
  have tables : catalog.tables.tables.Nodup := List.Nodup.of_map _ laws.tables.distinct
  rw [List.nodup_append]
  refine ⟨types.map_on ?_, tables.map_on ?_, ?_⟩
  · intro first firstMember second secondMember same
    exact laws.createType_inj identifier (declared.subset firstMember)
      (declared.subset secondMember) same
  · intro first firstMember second secondMember same
    exact laws.createTable_inj identifier firstMember secondMember same
  · intro typeText typeMember tableText tableMember same
    obtain ⟨type, -, rfl⟩ := List.mem_map.1 typeMember
    obtain ⟨table, -, rfl⟩ := List.mem_map.1 tableMember
    exact createType_ne_createTable keyspace type table same

/-! ## Order of dependencies -/

/-- Among declared types in declaration order, one with a smaller number stands earlier. -/
theorem WellFormed.position_lt (laws : catalog.WellFormed) {created : List UserType}
    (declared : created.Sublist catalog.types.types) {type dependency : UserType}
    {position earlier : Nat} (typePlace : created[position]? = some type)
    (dependencyPlace : created[earlier]? = some dependency)
    (smaller : dependency.index < type.index) : earlier < position := by
  have sorted := List.pairwise_iff_getElem.1 (laws.types.sorted.sublist declared)
  obtain ⟨positionBound, rfl⟩ := List.getElem?_eq_some_iff.1 typePlace
  obtain ⟨earlierBound, rfl⟩ := List.getElem?_eq_some_iff.1 dependencyPlace
  by_contra notEarlier
  rcases Nat.lt_or_eq_of_le (Nat.not_lt.1 notEarlier) with less | same
  · have greater := sorted position earlier positionBound earlierBound less
    omega
  · subst same
    omega

/-- What a field of a created type mentions is created, and stands earlier. -/
theorem WellFormed.exists_earlier (laws : catalog.WellFormed) {created : List UserType}
    (declared : created.Sublist catalog.types.types)
    (required : ∀ type, type ∈ created ↔ catalog.Requires type) {type : UserType}
    {position : Nat} (place : created[position]? = some type) {field : String × DataType}
    (inside : field ∈ type.fields) {handle : Handle} (mentioned : field.2.Mentions handle) :
    ∃ dependency, catalog.types.resolve handle = some dependency ∧
      ∃ earlier < position, created[earlier]? = some dependency := by
  have member := List.mem_of_getElem? place
  obtain ⟨dependency, found, smaller⟩ :=
    laws.types.earlier type (declared.subset member) field inside handle mentioned
  have needed := (required dependency).2
    (.field ((required type).1 member) inside mentioned found)
  obtain ⟨earlier, dependencyPlace⟩ := List.mem_iff_getElem?.1 needed
  exact ⟨dependency, found, earlier,
    laws.position_lt declared place dependencyPlace smaller, dependencyPlace⟩

/-- A statement for a table stands after all statements for types. -/
theorem length_le_of_createTable {created : List UserType} {later : List String} {table : Table}
    {position : Nat}
    (place : ((created.map fun type => (Statement.createType keyspace type).text) ++
      later)[position]? = some (Statement.createTable keyspace table).text) :
    created.length ≤ position := by
  by_contra inside
  rw [List.getElem?_append_left (by rw [List.length_map]; omega), List.getElem?_map] at place
  obtain ⟨type, -, same⟩ := Option.map_eq_some_iff.1 place
  exact createType_ne_createTable keyspace type table same

/-- The plan of a reachable catalog creates exactly the types that its tables require, each once
and after the types that it mentions, and then every table once, in declaration order. -/
theorem plan_creates_required (reachable : catalog.Reachable) {plan : Plan}
    (planned : catalog.plan keyspace = .ok plan) :
    ∃ created, plan.Creates keyspace catalog created := by
  have laws := reachable.wellFormed
  obtain ⟨identifier, -, created, found, rfl⟩ := plan_eq_ok.1 planned
  have declared := TypeRegistry.sublist_of_needed found
  have required : ∀ type, type ∈ created ↔ catalog.Requires type := by
    intro type
    rw [laws.types.mem_needed_iff found, Requires]
    simp only [mem_userTypes_iff]
  refine ⟨created, rfl, rfl, rfl, declared, required, laws.nodup_texts identifier declared,
    ?_, ?_⟩
  · intro type member position typeText field inside handle mentioned
    obtain ⟨other, place, sameText⟩ :=
      Option.map_eq_some_iff.1 (List.getElem?_map .. ▸ typeText)
    obtain rfl := laws.createType_inj identifier
      (declared.subset (List.mem_of_getElem? place)) (declared.subset member) sameText
    obtain ⟨dependency, resolved, earlier, less, dependencyPlace⟩ :=
      laws.exists_earlier declared required place inside mentioned
    refine ⟨dependency, resolved, earlier, less, ?_⟩
    rw [List.getElem?_map, dependencyPlace, Option.map_some]
  · intro table member position tableText entry inside handle mentioned
    obtain ⟨dependency, resolved⟩ := laws.resolved table member entry inside handle mentioned
    have needed := (required dependency).2
      (.direct ⟨table, member, entry, inside, mentioned⟩ resolved)
    obtain ⟨earlier, place⟩ := List.mem_iff_getElem?.1 needed
    have bound := (List.getElem?_eq_some_iff.1 place).1
    have after := length_le_of_createTable tableText
    refine ⟨dependency, resolved, earlier, by omega, ?_⟩
    rw [statements, List.getElem?_append_left (by rw [List.length_map]; exact bound),
      List.getElem?_map, place, Option.map_some]

/-- The plan of a table whose column reaches one type through another, beside a third type that
nothing requires. -/
theorem plan_of_nested_types :
    let catalog := empty.performAll
      [.declareType "Point" [("x", .scalar false .int)],
        .declareType "Spare" [("y", .scalar false .int)],
        .declareType "Path" [("points", .list true (.user false ⟨0, "Point"⟩))],
        .declareTable ⟨"t", none, [("p", .partition (.scalar false .int)),
          ("q", .regular (.map true (.scalar false .text) (.user false ⟨2, "Path"⟩)))]⟩]
    ∃ plan, catalog.plan "ks" = .ok plan ∧ plan.types.length = 2 ∧
      ∃ created, plan.Creates "ks" catalog created := by
  intro catalog
  let point : UserType := ⟨0, "Point", [("x", .scalar false .int)]⟩
  let spare : UserType := ⟨1, "Spare", [("y", .scalar false .int)]⟩
  let path : UserType := ⟨2, "Path", [("points", .list true (.user false point.handle))]⟩
  let registry : TypeRegistry := ⟨[point, spare, path]⟩
  have types : catalog.types = registry := by decide
  have used : catalog.tables.tables.flatMap Table.userTypes = [path.handle] := by decide
  have atPath : registry.resolve path.handle = some path := by decide
  have atPoint : registry.resolve point.handle = some point := by decide
  have follows : registry.follow (List.range registry.size) [path.handle].reverse = .ok [1] := by
    show registry.follow [0, 1, 2] [path.handle] = .ok [1]
    rw [TypeRegistry.follow, atPath]
    show registry.follow [0, 1] [point.handle] = .ok [1]
    rw [TypeRegistry.follow, atPoint]
    show registry.follow [1] [] = .ok [1]
    rw [TypeRegistry.follow]
  have found : catalog.types.needed (catalog.tables.tables.flatMap Table.userTypes) =
      .ok [point, path] := by
    rw [types, used]
    exact TypeRegistry.needed_of_follow follows
  have clean : ∀ table ∈ catalog.tables.tables, table.fault? = none := by decide
  have planned := plan_eq_ok.2 ⟨(by decide : isIdentifier "ks" = true), clean, _, found, rfl⟩
  exact ⟨_, planned, rfl, plan_creates_required ⟨_, rfl⟩ planned⟩

end Catalog

end CqlSchema
