import CqlSchema.Proofs.Plan.Execution
import CqlSchema.Proofs.Plan.Order
import CqlSchema.Proofs.Plan.Store
import CqlSchema.Proofs.TypeRegistry.Growth
/-!
# Plans that are applied again

A plan is applied statement by statement, and a run ends with the first call that fails. The
store never misses a type, since each statement refers only to types that are created before it.
A run that was interrupted leaves the store as after the first statements of the plan, so a run
that is not interrupted leads to the same store whatever was executed before.
-/

namespace CqlSchema

variable {ε : Type}

namespace Store

variable {read : String → Option Statement} {fails : Nat → Option ε} {store : Store}
  {statement : Statement} {calls : Nat}

/-- A call gives the answer of the store, and is counted. -/
theorem run_execute (read : String → Option Statement) (fails : Nat → Option ε) (text : String)
    (store : Store) (calls : Nat) :
    (execute read fails text).run (store, calls) =
      ((store.respond read (fails calls) text).1,
        ((store.respond read (fails calls) text).2, calls + 1)) :=
  rfl

/-- A call that fails leaves the store as it was. -/
theorem execute_of_fault {source : ε} (fault : fails calls = some source) (text : String) :
    (execute read fails text).run (store, calls) =
      (.error (.fault source), (store, calls + 1)) := by
  rw [run_execute, fault]
  rfl

/-- A statement that can be read is executed when no type is missing and the call does not
fail. -/
theorem execute_of_present (works : fails calls = none)
    (readable : read statement.text = some statement)
    (present : ∀ name ∈ statement.references, store.has (.type name) = true) :
    (execute read fails statement.text).run (store, calls) =
      (.ok (), (store.accept statement, calls + 1)) := by
  have answered : store.respond read (fails calls) statement.text =
      (.ok (), store.accept statement) := by
    simp only [respond, works, readable, missing?_eq_none present]
  rw [run_execute, answered]

/-! ## Runs over statements -/

/-- Every statement refers only to types that a statement before it creates. -/
def Ordered (statements : List Statement) : Prop :=
  ∀ before statement after, statements = before ++ statement :: after →
    ∀ name ∈ statement.references, ∃ earlier ∈ before, Creation.type name = earlier.creation

/-- How a run over statements ends, where `fails` tells which calls fail: with all statements
executed, or with the fault of the first call that fails, after the statements before it. -/
inductive Ends (fails : Nat → Option ε) (statements : List Statement) (store : Store) :
    Except (ApplyError (Failure ε)) Nat → Store → Prop where
  | whole : Ends fails statements store (.ok statements.length) (store.acceptAll statements)
  | fault {executed later : List Statement} {next : Statement} {source : ε} :
      statements = executed ++ next :: later → fails executed.length = some source →
      Ends fails statements store
        (.error (.execution executed.length next.text (.fault source)))
        (store.acceptAll executed)

/-- A run over ordered statements that can be read, of which some are executed, ends as it
should. -/
theorem ends_executeAll (fails : Nat → Option ε) (store : Store) {statements : List Statement}
    (ordered : Ordered statements)
    (readable : ∀ statement ∈ statements, read statement.text = some statement)
    {executed rest : List Statement} (shape : statements = executed ++ rest) :
    ∃ outcome after calls,
      (executeAll (execute read fails) executed.length (rest.map Statement.text)).run
        (store.acceptAll executed, executed.length) = (outcome, (after, calls)) ∧
      Ends fails statements store outcome after := by
  -- The store and the number of calls are always those after the executed statements.
  induction rest generalizing executed with
  | nil =>
    rw [List.append_nil] at shape
    subst shape
    exact ⟨_, _, _, rfl, .whole⟩
  | cons next later ih =>
    rw [List.map_cons]
    cases call : fails executed.length with
    | some source =>
      exact ⟨_, _, _, executeAll_of_error (execute_of_fault call next.text) _ _,
        .fault shape call⟩
    | none =>
      have present : ∀ name ∈ next.references,
          (store.acceptAll executed).has (.type name) = true := by
        intro name member
        exact has_acceptAll_iff.2 (.inr (ordered executed next later shape name member))
      have known : read next.text = some next :=
        readable next (shape ▸ List.mem_append_right _ List.mem_cons_self)
      have longer : store.acceptAll (executed ++ [next]) =
          (store.acceptAll executed).accept next := List.foldl_append
      rw [executeAll_of_ok (execute_of_present call known present), ← longer]
      rw [List.append_cons] at shape
      have counted : (executed ++ [next]).length = executed.length + 1 := by simp
      rw [← counted]
      exact ih shape

/-- A run that ends leaves the store as after the first statements. -/
theorem Ends.exists_executed {statements : List Statement}
    {outcome : Except (ApplyError (Failure ε)) Nat} {after : Store}
    (ends : Ends fails statements store outcome after) :
    ∃ executed later, statements = executed ++ later ∧ after = store.acceptAll executed := by
  cases ends with
  | whole => exact ⟨statements, [], (List.append_nil _).symm, rfl⟩
  | fault shape _ => exact ⟨_, _, shape, rfl⟩

/-- A run in which no call fails executes all statements. -/
theorem Ends.eq_whole {statements : List Statement}
    {outcome : Except (ApplyError (Failure ε)) Nat} {after : Store}
    (ends : Ends (reliable ε) statements store outcome after) :
    outcome = .ok statements.length ∧ after = store.acceptAll statements := by
  cases ends with
  | whole => exact ⟨rfl, rfl⟩
  | fault _ fault => cases fault

/-- No run misses a type. -/
theorem Ends.ne_missingType {statements : List Statement}
    {outcome : Except (ApplyError (Failure ε)) Nat} {after : Store}
    (ends : Ends fails statements store outcome after) (index : Nat) (text name : String) :
    outcome ≠ .error (.execution index text (.missingType name)) := by
  rintro rfl
  cases ends

end Store

namespace Catalog

variable {catalog : Catalog} {keyspace : String}

/-! ## Statements of a plan -/

/-- Statements that create the given types and all tables of a catalog. -/
def commands (keyspace : String) (catalog : Catalog) (created : List UserType) : List Statement :=
  created.map (Statement.createType keyspace) ++
    catalog.tables.tables.map (Statement.createTable keyspace)

/-- A created type stands in the plan where it stands among the created types. -/
theorem commands_getElem?_of_created {created : List UserType} {position : Nat} {type : UserType}
    (place : created[position]? = some type) :
    (catalog.commands keyspace created)[position]? = some (.createType keyspace type) := by
  have bound := (List.getElem?_eq_some_iff.1 place).1
  rw [commands, List.getElem?_append_left (by rw [List.length_map]; exact bound),
    List.getElem?_map, place, Option.map_some]

/-- A type that is resolved from a handle is created under the name that the handle refers to. -/
theorem creation_of_resolve {handle : Handle} {dependency : UserType}
    (found : catalog.types.resolve handle = some dependency) :
    Creation.type (Text.fold handle.name) = (Statement.createType keyspace dependency).creation :=
  congrArg (fun name => Creation.type (Text.fold name)) (TypeRegistry.name_of_resolve found).symm

/-- Statements for the required types in declaration order, and then for the tables, refer only
to types that are created before. -/
theorem WellFormed.ordered_commands (laws : catalog.WellFormed) {created : List UserType}
    (declared : created.Sublist catalog.types.types)
    (required : ∀ type, type ∈ created ↔ catalog.Requires type) :
    Store.Ordered (catalog.commands keyspace created) := by
  intro before statement after shape name member
  obtain ⟨handle, mentioned, rfl⟩ := List.mem_map.1 member
  have place : (catalog.commands keyspace created)[before.length]? = some statement := by
    rw [shape, List.getElem?_append_right (Nat.le_refl _), Nat.sub_self]
    rfl
  -- A type that stands earlier in the plan is among the statements before this one.
  have createdBefore : ∀ {position : Nat} {dependency : UserType}, position < before.length →
      created[position]? = some dependency →
      catalog.types.resolve handle = some dependency →
      ∃ earlier ∈ before, Creation.type (Text.fold handle.name) = earlier.creation := by
    intro position dependency less typePlace found
    refine ⟨.createType keyspace dependency, ?_, creation_of_resolve found⟩
    have inPlan : (catalog.commands keyspace created)[position]? =
        some (.createType keyspace dependency) := commands_getElem?_of_created typePlace
    rw [shape, List.getElem?_append_left less] at inPlan
    exact List.mem_of_getElem? inPlan
  rcases Nat.lt_or_ge before.length created.length with inside | outside
  · rw [commands, List.getElem?_append_left (by rw [List.length_map]; exact inside),
      List.getElem?_map] at place
    obtain ⟨type, typePlace, rfl⟩ := Option.map_eq_some_iff.1 place
    obtain ⟨field, inFields, inType⟩ := TypeRegistry.mem_dependencies_iff.1 mentioned
    obtain ⟨dependency, found, earlier, less, dependencyPlace⟩ :=
      laws.exists_earlier declared required typePlace inFields inType
    exact createdBefore less dependencyPlace found
  · rw [commands, List.getElem?_append_right (by rw [List.length_map]; exact outside),
      List.getElem?_map] at place
    obtain ⟨table, tablePlace, rfl⟩ := Option.map_eq_some_iff.1 place
    have declaredTable := List.mem_of_getElem? tablePlace
    obtain ⟨entry, inColumns, inType⟩ := Table.mem_userTypes_iff.1 mentioned
    have used : catalog.Uses handle := ⟨table, declaredTable, entry, inColumns, inType⟩
    obtain ⟨dependency, found⟩ :=
      laws.resolved table declaredTable entry inColumns handle inType
    obtain ⟨position, typePlace⟩ :=
      List.mem_iff_getElem?.1 ((required dependency).2 (.direct used found))
    have bound := (List.getElem?_eq_some_iff.1 typePlace).1
    exact createdBefore (by omega) typePlace found

/-- Readers of texts that know the statements of a catalog. -/
structure Reads (catalog : Catalog) (keyspace : String) (read : String → Option Statement) :
    Prop where
  /-- Statements for types are known. -/
  type : ∀ type ∈ catalog.types.types,
    read (Statement.createType keyspace type).text = some (.createType keyspace type)
  /-- Statements for tables are known. -/
  table : ∀ table ∈ catalog.tables.tables,
    read (Statement.createTable keyspace table).text = some (.createTable keyspace table)

/-- Statement of a catalog with a given text. -/
def statement? (catalog : Catalog) (keyspace text : String) : Option Statement :=
  (catalog.commands keyspace catalog.types.types).find? fun statement => statement.text == text

/-- Looking for the text of a statement among those of a well-formed catalog reads it. -/
theorem WellFormed.reads_statement? (laws : catalog.WellFormed)
    (identifier : isIdentifier keyspace = true) :
    catalog.Reads keyspace (catalog.statement? keyspace) := by
  have distinct : ((catalog.commands keyspace catalog.types.types).map Statement.text).Nodup := by
    rw [commands, List.map_append, List.map_map, List.map_map]
    exact laws.nodup_texts identifier (List.Sublist.refl _)
  have found : ∀ statement ∈ catalog.commands keyspace catalog.types.types,
      catalog.statement? keyspace statement.text = some statement := by
    intro statement member
    cases first : catalog.statement? keyspace statement.text with
    | none =>
      have absent := List.find?_eq_none.1 first statement member
      simp at absent
    | some other =>
      have sameText : other.text = statement.text := beq_iff_eq.1 (List.find?_some first :)
      rw [List.inj_on_of_nodup_map distinct (List.mem_of_find?_eq_some first) member sameText]
  constructor
  · intro type member
    exact found _ (List.mem_append_left _ (List.mem_map_of_mem member))
  · intro table member
    exact found _ (List.mem_append_right _ (List.mem_map_of_mem member))

/-! ## Runs of a catalog -/

/-- Creates everything in a catalog by calls on a store. Returns the outcome and the store
afterwards. -/
def run (read : String → Option Statement) (keyspace : String) (catalog : Catalog)
    (store : Store) (fails : Nat → Option ε) :
    Except (ApplyError (Store.Failure ε)) Nat × Store :=
  let (outcome, (after, _)) := (catalog.applyAll (Store.execute read fails) keyspace).run (store, 0)
  (outcome, after)

/-- Store after a run, whatever its outcome. -/
def storeAfter (read : String → Option Statement) (keyspace : String) (catalog : Catalog)
    (store : Store) (fails : Nat → Option ε) : Store :=
  (catalog.run read keyspace store fails).2

/-- A run over the plan of a well-formed catalog ends as it should. -/
theorem WellFormed.ends_run (laws : catalog.WellFormed) {plan : Plan}
    (planned : catalog.plan keyspace = .ok plan) {read : String → Option Statement}
    (reads : catalog.Reads keyspace read) :
    ∃ statements : List Statement, statements.length = plan.size ∧
      ∀ (fails : Nat → Option ε) (store : Store),
        Store.Ends fails statements store (catalog.run read keyspace store fails).1
          (catalog.storeAfter read keyspace store fails) := by
  obtain ⟨-, -, created, found, rfl⟩ := plan_eq_ok.1 planned
  have declared := TypeRegistry.sublist_of_needed found
  have required : ∀ type, type ∈ created ↔ catalog.Requires type := by
    intro type
    rw [laws.types.mem_needed_iff found, Requires]
    simp only [mem_userTypes_iff]
  have ordered : Store.Ordered (catalog.commands keyspace created) :=
    laws.ordered_commands declared required
  have readable : ∀ statement ∈ catalog.commands keyspace created,
      read statement.text = some statement := by
    intro statement member
    rcases List.mem_append.1 member with inTypes | inTables
    · obtain ⟨type, typeMember, rfl⟩ := List.mem_map.1 inTypes
      exact reads.type type (declared.subset typeMember)
    · obtain ⟨table, tableMember, rfl⟩ := List.mem_map.1 inTables
      exact reads.table table tableMember
  refine ⟨catalog.commands keyspace created, by simp [commands, Plan.size], ?_⟩
  intro fails store
  obtain ⟨outcome, after, calls, executed, ends⟩ :=
    Store.ends_executeAll fails store ordered readable (List.nil_append _).symm
  have texts : (catalog.commands keyspace created).map Statement.text =
      (created.map fun type => (Statement.createType keyspace type).text) ++
        catalog.tables.tables.map fun table => (Statement.createTable keyspace table).text := by
    rw [commands, List.map_append, List.map_map, List.map_map]
    rfl
  have applied : (catalog.applyAll (Store.execute read fails) keyspace).run (store, 0) =
      (outcome, (after, calls)) := by
    rw [applyAll, planned]
    rw [texts] at executed
    exact executed
  rw [storeAfter, run, applied]
  exact ends

/-- Runs that each execute the first statements only, however many, leave a store in which all
statements lead to the same store as before these runs. -/
theorem acceptAll_interrupted {α : Type} {statements : List Statement} {run : Store → α → Store}
    (executes : ∀ store fails, ∃ executed later,
      statements = executed ++ later ∧ run store fails = store.acceptAll executed)
    (interruptions : List α) (store : Store) :
    (interruptions.foldl run store).acceptAll statements = store.acceptAll statements := by
  induction interruptions generalizing store with
  | nil => rfl
  | cons fails rest ih =>
    obtain ⟨executed, later, shape, ended⟩ := executes store fails
    rw [List.foldl_cons, ih, ended, shape, Store.acceptAll_again]

/-- Applying the plan of a reachable catalog never misses a type, whatever calls fail. After any
interrupted runs a run without failures executes all statements and leads to the same store as
such a run alone. -/
theorem run_after_interruptions (reachable : catalog.Reachable) {plan : Plan}
    (planned : catalog.plan keyspace = .ok plan) {read : String → Option Statement}
    (reads : catalog.Reads keyspace read) :
    (∀ (store : Store) (fails : Nat → Option ε) (index : Nat) (text name : String),
      (catalog.run read keyspace store fails).1 ≠
        .error (.execution index text (.missingType name))) ∧
    ∀ (store : Store) (interruptions : List (Nat → Option ε)),
      catalog.run read keyspace (interruptions.foldl (catalog.storeAfter read keyspace) store)
          (Store.reliable ε) =
        (.ok plan.size, catalog.storeAfter read keyspace store (Store.reliable ε)) := by
  obtain ⟨statements, counted, ends⟩ := reachable.wellFormed.ends_run planned reads
  constructor
  · intro store fails index text name
    exact (ends fails store).ne_missingType index text name
  · intro store interruptions
    have whole : ∀ store : Store, catalog.run read keyspace store (Store.reliable ε) =
        (.ok plan.size, store.acceptAll statements) := by
      intro store
      obtain ⟨outcome, after⟩ := (ends (Store.reliable ε) store).eq_whole
      exact Prod.ext (counted ▸ outcome) after
    have again := acceptAll_interrupted
      (fun store fails => (ends fails store).exists_executed) interruptions store
    rw [whole, storeAfter, whole, again]

/-- A type and a table that mentions it, applied to an empty store by two runs whose second call
is lost, and then by a whole run. -/
theorem run_after_two_lost_calls :
    let catalog := empty.performAll
      [.declareType "Point" [("x", .scalar false .int)],
        .declareTable ⟨"t", none, [("p", .partition (.user true ⟨0, "Point"⟩))]⟩]
    let read := catalog.statement? "ks"
    let fails : Nat → Option String := fun calls => if calls = 1 then some "lost" else none
    (∀ (index : Nat) (text name : String), (catalog.run read "ks" Store.empty fails).1 ≠
        .error (.execution index text (.missingType name))) ∧
      catalog.run read "ks" ([fails, fails].foldl (catalog.storeAfter read "ks") Store.empty)
          (Store.reliable String) =
        (.ok 2, catalog.storeAfter read "ks" Store.empty (Store.reliable String)) := by
  intro catalog read fails
  let point : UserType := ⟨0, "Point", [("x", .scalar false .int)]⟩
  have reachable : catalog.Reachable := ⟨_, rfl⟩
  have identifier : isIdentifier "ks" = true := by decide
  have used : catalog.tables.tables.flatMap Table.userTypes = [point.handle] := by decide
  have atPoint : catalog.types.resolve point.handle = some point := by decide
  have found : catalog.types.needed (catalog.tables.tables.flatMap Table.userTypes) =
      .ok [point] := by
    rw [used]
    exact reachable.wellFormed.types.needed_of_plain atPoint (by decide)
  have clean : ∀ table ∈ catalog.tables.tables, table.fault? = none := by decide
  have planned := plan_eq_ok.2 ⟨identifier, clean, _, found, rfl⟩
  obtain ⟨complete, again⟩ :=
    run_after_interruptions reachable planned (reachable.wellFormed.reads_statement? identifier)
  exact ⟨complete Store.empty fails, again Store.empty [fails, fails]⟩

end Catalog

end CqlSchema
