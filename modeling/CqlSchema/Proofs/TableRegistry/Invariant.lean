import CqlSchema.Table
import CqlSchema.Proofs.Entries
/-!
# What every registry of tables keeps

The tables of a registry and the names it holds as taken are two copies of one fact: a folded
text is taken exactly when it is the folded name of a stored table. Each declaration, carried
out or refused, keeps the two in step, although a name is taken before its table is stored.
-/

namespace CqlSchema.TableRegistry

/-- Laws of a registry that is built by declarations. -/
structure WellFormed (registry : TableRegistry) : Prop where
  /-- Every table is named by an identifier. -/
  identifiers : ∀ table ∈ registry.tables, isIdentifier table.name = true
  /-- No two names of tables fold to the same text. -/
  distinct : (registry.tables.map fun table => Text.fold table.name).Nodup
  /-- The columns of every table are well named. -/
  wellNamed : ∀ table ∈ registry.tables, table.columns.WellNamed
  /-- The taken texts are the folded names of the stored tables. -/
  mem_names_iff : ∀ folded, folded ∈ registry.names ↔
    ∃ table ∈ registry.tables, Text.fold table.name = folded

/-- A name is taken exactly when a stored table has it up to case. -/
theorem WellFormed.hasTable_iff {registry : TableRegistry} (laws : registry.WellFormed)
    (name : String) : registry.hasTable name = true ↔
      ∃ table ∈ registry.tables, Text.sameFolded table.name name = true := by
  rw [hasTable, List.contains_iff_mem, laws.mem_names_iff]
  simp only [Text.sameFolded_iff]

/-- In a well-formed registry names tell tables apart, also when case is ignored. -/
theorem WellFormed.eq_of_fold_eq {registry : TableRegistry} (laws : registry.WellFormed)
    {first second : Table} (firstMember : first ∈ registry.tables)
    (secondMember : second ∈ registry.tables)
    (same : Text.fold first.name = Text.fold second.name) : first = second :=
  List.inj_on_of_nodup_map laws.distinct firstMember secondMember same

/-! ## Declarations -/

/-- Demands on a declaration. -/
structure Declarable (registry : TableRegistry) (declaration : TableDeclaration) : Prop where
  /-- The name is an identifier. -/
  identifier : isIdentifier declaration.name = true
  /-- The columns are well named. -/
  wellNamed : Entries.WellNamed declaration.columns
  /-- The folded name is free. -/
  free : Text.fold declaration.name ∉ registry.names

/-- The checks of a column admit only new identifiers as names. -/
theorem columnFault_checksNames : Entries.ChecksNames columnFault? := by
  intro collected entry clean
  unfold columnFault? at clean
  split at clean
  · cases clean
  · rename_i identifier
    split at clean
    · cases clean
    · rename_i fresh
      refine ⟨by simpa using identifier, fun other member same => fresh ?_⟩
      exact List.any_eq_true.2 ⟨other, member, Text.sameFolded_iff.2 same⟩

/-- A free name is taken, and nothing else changes. -/
theorem reserve_eq_true {registry reserved : TableRegistry} {name : String}
    (done : registry.reserve name = (reserved, true)) :
    Text.fold name ∉ registry.names ∧ reserved.tables = registry.tables ∧
      reserved.names = Text.fold name :: registry.names := by
  unfold reserve at done
  split at done
  · cases done
  · rename_i free
    cases done
    refine ⟨fun taken => free ?_, rfl, rfl⟩
    exact List.contains_iff_mem.2 taken

/-- Nothing changes when the name is taken. -/
theorem reserve_eq_false {registry reserved : TableRegistry} {name : String}
    (done : registry.reserve name = (reserved, false)) : reserved = registry := by
  unfold reserve at done
  split at done
  · cases done
    rfl
  · cases done

/-- A declaration that is carried out adds exactly the declared table at the end, and its folded
name to the taken ones. -/
theorem declare_eq_ok {registry after : TableRegistry} {declaration : TableDeclaration}
    {table : Table} (declared : registry.declare declaration = (after, .ok table)) :
    after.tables = registry.tables ++ [⟨declaration.name, declaration.columns⟩] ∧
      after.names = Text.fold declaration.name :: registry.names ∧
      table = ⟨declaration.name, declaration.columns⟩ ∧ registry.Declarable declaration := by
  unfold declare at declared
  split at declared
  · cases declared
  · rename_i identifier
    split at declared
    · cases declared
    · rename_i columns passed
      obtain ⟨rfl, wellNamed, -⟩ := Entries.collect_wellNamed columnFault_checksNames passed
      split at declared
      · cases declared
      · rename_i reserved done
        obtain ⟨free, tables, names⟩ := reserve_eq_true done
        cases declared
        exact ⟨by rw [tables], names, rfl, by simpa using identifier, wellNamed, free⟩

/-- A named column has no fault beside columns with other names. -/
theorem columnFault?_eq_none {collected : Entries Column} {entry : String × Column}
    (identifier : isIdentifier entry.1 = true)
    (new : ∀ other ∈ collected, Text.fold other.1 ≠ Text.fold entry.1) :
    columnFault? collected entry = none := by
  have fresh : ¬ (collected.any fun other => Text.sameFolded other.1 entry.1) = true := by
    rw [List.any_eq_true]
    rintro ⟨other, member, same⟩
    exact new other member (Text.sameFolded_iff.1 same)
  simp only [columnFault?, identifier, fresh, Bool.not_true, Bool.false_eq_true, ↓reduceIte]

/-- A declarable table is declared. -/
theorem Declarable.declare_eq {registry : TableRegistry} {declaration : TableDeclaration}
    (demands : registry.Declarable declaration) :
    registry.declare declaration =
      (⟨registry.tables ++ [⟨declaration.name, declaration.columns⟩],
        Text.fold declaration.name :: registry.names⟩,
        .ok ⟨declaration.name, declaration.columns⟩) := by
  have collected : Entries.collect columnFault? [] declaration.columns =
      .ok declaration.columns := by
    refine Entries.collect_of_clean columnFault_checksNames ?_
    intro before entry after shape
    have member : entry ∈ declaration.columns :=
      shape ▸ List.mem_append_right _ List.mem_cons_self
    exact columnFault?_eq_none (demands.wellNamed.identifiers entry member)
      (demands.wellNamed.ne_of_earlier shape)
  have free : ¬ registry.hasTable declaration.name = true := by
    rw [hasTable, List.contains_iff_mem]
    exact demands.free
  simp only [declare, demands.identifier, collected, reserve, free, Bool.not_true,
    Bool.false_eq_true, ↓reduceIte]

/-- A declaration that is refused changes nothing, whether its name was free or taken. -/
theorem declare_eq_error {registry after : TableRegistry} {declaration : TableDeclaration}
    {refusal : SchemaError} (refused : registry.declare declaration = (after, .error refusal)) :
    after = registry := by
  unfold declare at refused
  split at refused
  · cases refused
    rfl
  · split at refused
    · cases refused
      rfl
    · split at refused
      · rename_i reserved done
        cases refused
        exact reserve_eq_false done
      · cases refused

/-! ## Keeping the laws -/

/-- The registry without tables keeps all laws. -/
theorem wellFormed_empty : empty.WellFormed where
  identifiers := by simp [empty]
  distinct := by simp [empty]
  wellNamed := by simp [empty]
  mem_names_iff := by simp [empty]

/-- A declarable table at the end keeps all laws once its folded name is taken. -/
theorem WellFormed.append {registry : TableRegistry} (laws : registry.WellFormed)
    {declaration : TableDeclaration} (demands : registry.Declarable declaration) :
    WellFormed ⟨registry.tables ++ [⟨declaration.name, declaration.columns⟩],
      Text.fold declaration.name :: registry.names⟩ where
  identifiers table member := by
    rcases List.mem_append.1 member with old | new
    · exact laws.identifiers table old
    · obtain rfl := List.mem_singleton.1 new
      exact demands.identifier
  distinct := Entries.nodup_map_concat laws.distinct fun table member same =>
    demands.free ((laws.mem_names_iff _).2 ⟨table, member, same⟩)
  wellNamed table member := by
    rcases List.mem_append.1 member with old | new
    · exact laws.wellNamed table old
    · obtain rfl := List.mem_singleton.1 new
      exact demands.wellNamed
  mem_names_iff folded := by
    simp only [List.mem_cons, laws.mem_names_iff, List.mem_append, List.not_mem_nil, or_false,
      or_and_right, exists_or, exists_eq_left]
    rw [or_comm, eq_comm]

/-- Every declaration, carried out or refused, keeps the laws. -/
theorem WellFormed.declare {registry : TableRegistry} (laws : registry.WellFormed)
    (declaration : TableDeclaration) : (registry.declare declaration).1.WellFormed := by
  rcases shape : registry.declare declaration with ⟨after, outcome⟩
  cases outcome with
  | error refusal =>
    rw [declare_eq_error shape]
    exact laws
  | ok table =>
    obtain ⟨tables, names, -, demands⟩ := declare_eq_ok shape
    obtain rfl : after = ⟨registry.tables ++ [⟨declaration.name, declaration.columns⟩],
        Text.fold declaration.name :: registry.names⟩ := by
      rw [← tables, ← names]
    exact laws.append demands

end CqlSchema.TableRegistry
