import CqlSchema.Proofs.DataType.Renumbering
import CqlSchema.Proofs.TypeRegistry.Growth
/-!
# Registries with the same types in another order

Two registries that have the same types in different orders number them differently, and every
handle has to be renumbered on the way from one to the other. Nothing else changes: names are found
and texts are read as the renumbered handles and types, and handles need the renumbered types.
-/

namespace CqlSchema

namespace UserType

/-- The same type under the number that its name is given, with its fields renumbered. -/
def renumber (number : String → Nat) (type : UserType) : UserType where
  index := number type.name
  name := type.name
  fields := type.fields.map (Prod.map id (DataType.renumber number))

variable {number : String → Nat}

/-- A name stays what it was. -/
@[simp] theorem name_renumber (type : UserType) : (type.renumber number).name = type.name :=
  rfl

/-- The handle of a renumbered type is renumbered. -/
@[simp] theorem handle_renumber (type : UserType) :
    (type.renumber number).handle = type.handle.renumber number :=
  rfl

/-- The fields of a type are written alike. -/
@[simp] theorem fieldTexts_renumber (type : UserType) :
    (type.renumber number).fields.map fieldText = type.fields.map fieldText := by
  simp [renumber, fieldText]

/-- Only the last numbers count. -/
theorem renumber_renumber (other : String → Nat) (type : UserType) :
    (type.renumber other).renumber number = type.renumber number := by
  simp [renumber, DataType.renumber_renumber]

end UserType

namespace TypeRegistry

/-! ## Numbers of a registry -/

/-- Number under which a registry has a name. -/
def number (registry : TypeRegistry) (name : String) : Nat :=
  ((registry.lookup name).map Handle.index).getD 0

/-- A found handle carries the number and the name that were looked up. -/
theorem eq_of_lookup {registry : TypeRegistry} {name : String} {handle : Handle}
    (found : registry.lookup name = some handle) : handle = ⟨registry.number name, name⟩ := by
  rw [number, found, ← name_of_lookup found]
  rfl

/-- A name is found when a type has it. -/
theorem isSome_lookup_iff {registry : TypeRegistry} {name : String} :
    (registry.lookup name).isSome = true ↔ name ∈ registry.types.map UserType.name := by
  rw [lookup, Option.isSome_map, List.find?_isSome, List.mem_map]
  simp only [beq_iff_eq]

/-- Registries with the same names find the same names, each under its own numbers. -/
theorem lookup_renumber {first second : TypeRegistry}
    (sameNames : ∀ name, name ∈ first.types.map UserType.name ↔
      name ∈ second.types.map UserType.name) (name : String) :
    second.lookup name = (first.lookup name).map (Handle.renumber second.number) := by
  have together := sameNames name
  rw [← isSome_lookup_iff, ← isSome_lookup_iff] at together
  cases found : first.lookup name with
  | none =>
    rw [found] at together
    exact Option.not_isSome_iff_eq_none.1 fun present => absurd (together.2 present) (by simp)
  | some handle =>
    rw [found] at together
    obtain ⟨other, otherFound⟩ := Option.isSome_iff_exists.1 (together.1 rfl)
    rw [otherFound, eq_of_lookup otherFound, Option.map_some, Handle.renumber,
      name_of_lookup found]

/-- Registries with the same names read texts as the same types up to numbers, and refuse them
alike. -/
theorem parse_renumber {first second : TypeRegistry}
    (sameNames : ∀ name, name ∈ first.types.map UserType.name ↔
      name ∈ second.types.map UserType.name) (text : String) :
    second.parse text = (first.parse text).map (DataType.renumber second.number) := by
  unfold TypeRegistry.parse
  rw [DataType.parse_renumber (lookup_renumber sameNames)]
  cases DataType.parse first.lookup text with
  | error fault => rfl
  | ok type => rfl

variable {registry : TypeRegistry}

/-- Handles that resolve have the numbers of their registry already. -/
theorem WellFormed.renumber_of_resolve (laws : registry.WellFormed) {handle : Handle}
    {type : UserType} (found : registry.resolve handle = some type) :
    handle.renumber registry.number = handle :=
  (eq_of_lookup (laws.lookup_of_resolve found)).symm

/-- Types have the numbers of their registry already. -/
theorem WellFormed.renumber_eq_self (laws : registry.WellFormed) {type : UserType}
    (member : type ∈ registry.types) : type.renumber registry.number = type := by
  have index : registry.number type.name = type.index :=
    congrArg Handle.index (laws.renumber_of_resolve (laws.resolve_handle member))
  have fields : type.fields.map (Prod.map id (DataType.renumber registry.number)) =
      type.fields := by
    refine (List.map_congr_left fun field inside => ?_).trans (List.map_id _)
    refine Prod.ext rfl (DataType.renumber_eq_self fun handle mentioned => ?_)
    obtain ⟨dependency, found, -⟩ := laws.earlier type member field inside handle mentioned
    exact laws.renumber_of_resolve found
  rw [UserType.renumber, index, fields]

/-! ## Reordered registries -/

/-- Two registries have the same types in any two orders, each under its own numbers. -/
structure Reordered (first second : TypeRegistry) : Prop where
  /-- The first registry obeys the laws of registries. -/
  firstLaws : first.WellFormed
  /-- The second registry obeys the laws of registries. -/
  secondLaws : second.WellFormed
  /-- Renumbered, the types of the first registry are those of the second. -/
  types : (first.types.map (UserType.renumber second.number)).Perm second.types

namespace Reordered

variable {first second : TypeRegistry}

/-- The order goes both ways. -/
theorem symm (reordered : first.Reordered second) : second.Reordered first where
  firstLaws := reordered.secondLaws
  secondLaws := reordered.firstLaws
  types := by
    have back := (reordered.types.map (UserType.renumber first.number)).symm
    have own : (first.types.map (UserType.renumber second.number)).map
        (UserType.renumber first.number) = first.types := by
      rw [List.map_map]
      refine (List.map_congr_left fun type member => ?_).trans (List.map_id _)
      exact (type.renumber_renumber _).trans (reordered.firstLaws.renumber_eq_self member)
    rw [own] at back
    exact back

/-- The renumbered types of the first registry are in the second. -/
theorem mem_types (reordered : first.Reordered second) {type : UserType}
    (member : type ∈ first.types) : type.renumber second.number ∈ second.types :=
  reordered.types.subset (List.mem_map_of_mem member)

/-- The names are the same. -/
theorem mem_names (reordered : first.Reordered second) (name : String) :
    name ∈ first.types.map UserType.name ↔ name ∈ second.types.map UserType.name := by
  have names := (reordered.types.map UserType.name).mem_iff (a := name)
  rw [List.map_map] at names
  exact names

/-- Renumbered handles resolve to renumbered types. -/
theorem resolve (reordered : first.Reordered second) {handle : Handle} {type : UserType}
    (found : first.resolve handle = some type) :
    second.resolve (handle.renumber second.number) = some (type.renumber second.number) := by
  have member := reordered.mem_types (mem_of_resolve found)
  rw [← reordered.firstLaws.handle_of_resolve found, ← UserType.handle_renumber]
  exact reordered.secondLaws.resolve_handle member

/-- A handle that resolves gets its number back on the way back. -/
theorem renumber_back (reordered : first.Reordered second) {handle : Handle} {type : UserType}
    (found : first.resolve handle = some type) :
    (handle.renumber second.number).renumber first.number = handle :=
  reordered.firstLaws.renumber_of_resolve found

/-! ## Needed types -/

/-- Renumbered handles need the renumbered types. -/
theorem needs (reordered : first.Reordered second) {used other : Handle → Prop}
    (covers : ∀ handle, used handle → other (handle.renumber second.number)) {type : UserType}
    (needed : first.Needs used type) : second.Needs other (type.renumber second.number) := by
  induction needed with
  | direct isUsed found => exact .direct (covers _ isUsed) (reordered.resolve found)
  | field _ inside mentioned found ih =>
    refine .field ih (List.mem_map_of_mem inside) ?_ (reordered.resolve found)
    exact DataType.mentions_renumber_iff.2 ⟨_, mentioned, rfl⟩

/-- Handles that resolve need nothing but the renumbered types. -/
theorem exists_of_needs (reordered : first.Reordered second) {used : List Handle}
    (own : ∀ handle ∈ used, ∃ type, first.resolve handle = some type) {type : UserType}
    (needed : second.Needs (· ∈ used.map (Handle.renumber second.number)) type) :
    ∃ source, first.Needs (· ∈ used) source ∧ source.renumber second.number = type := by
  have back : first.Needs (· ∈ used) (type.renumber first.number) := by
    refine reordered.symm.needs (fun handle member => ?_) needed
    obtain ⟨source, isUsed, rfl⟩ := List.mem_map.1 member
    obtain ⟨_, found⟩ := own source isUsed
    rw [reordered.renumber_back found]
    exact isUsed
  refine ⟨_, back, ?_⟩
  rw [UserType.renumber_renumber]
  exact reordered.secondLaws.renumber_eq_self needed.mem

/-- Selections of a registry stay without repetitions when they are renumbered. -/
theorem nodup_renumber (reordered : first.Reordered second) {types : List UserType}
    (declared : types.Sublist first.types) :
    (types.map (UserType.renumber second.number)).Nodup := by
  refine List.Nodup.of_map (fun type => Text.fold type.name) ?_
  rw [List.map_map]
  exact reordered.firstLaws.distinct.sublist (declared.map _)

/-- For handles that resolve, the same types are found in both registries. -/
theorem exists_needed (reordered : first.Reordered second) {used : List Handle}
    (own : ∀ handle ∈ used, ∃ type, first.resolve handle = some type) :
    ∃ types others, first.needed used = .ok types ∧
      second.needed (used.map (Handle.renumber second.number)) = .ok others ∧
      (types.map (UserType.renumber second.number)).Perm others := by
  have otherOwn : ∀ handle ∈ used.map (Handle.renumber second.number),
      ∃ type, second.resolve handle = some type := by
    intro handle member
    obtain ⟨source, isUsed, rfl⟩ := List.mem_map.1 member
    obtain ⟨type, found⟩ := own source isUsed
    exact ⟨_, reordered.resolve found⟩
  obtain ⟨types, found⟩ := reordered.firstLaws.exists_needed own
  obtain ⟨others, otherFound⟩ := reordered.secondLaws.exists_needed otherOwn
  refine ⟨types, others, found, otherFound, ?_⟩
  have otherDistinct : others.Nodup :=
    (List.Nodup.of_map _ reordered.secondLaws.distinct).sublist (sublist_of_needed otherFound)
  rw [List.perm_ext_iff_of_nodup (reordered.nodup_renumber (sublist_of_needed found)) otherDistinct]
  intro type
  rw [List.mem_map, reordered.secondLaws.mem_needed_iff otherFound]
  constructor
  · rintro ⟨source, member, rfl⟩
    have needed := (reordered.firstLaws.mem_needed_iff found).1 member
    exact reordered.needs (fun handle isUsed => List.mem_map_of_mem isUsed) needed
  · intro needed
    obtain ⟨source, sourceNeeded, rfl⟩ := reordered.exists_of_needs own needed
    exact ⟨source, (reordered.firstLaws.mem_needed_iff found).2 sourceNeeded, rfl⟩

end Reordered

end TypeRegistry

end CqlSchema
