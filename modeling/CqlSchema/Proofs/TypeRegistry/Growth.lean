import CqlSchema.Proofs.DataType.Grammar
import CqlSchema.Proofs.TypeRegistry.Closure
import Mathlib.Data.List.Sort
/-!
# Registries that grow

A registry of types only grows at its end. What it answered before stays its answer: a handle
resolves to the same type, a name is looked up as the same handle, and a text is read as the same
type. Handles that resolved need exactly the types that they needed before, since a type mentions
only types in front of it.
-/

namespace CqlSchema.DataType

/-- A text goes on to spell a type when names are found as they were. -/
theorem Spells.of_lookup {lookup later : String → Option Handle}
    (kept : ∀ name handle, lookup name = some handle → later name = some handle)
    {text : List Char} {type : DataType} (spelled : Spells lookup text type) :
    Spells later text type := by
  induction spelled with
  | scalar holds same => exact .scalar holds same
  | list holds same opens _ closes ih => exact .list holds same opens ih closes
  | set holds same opens _ closes ih => exact .set holds same opens ih closes
  | frozen holds same opens _ closes ih => exact .frozen holds same opens ih closes
  | map holds same opens _ parts _ closes keyIh valueIh =>
    exact .map holds same opens keyIh parts valueIh closes
  | user holds free found => exact .user holds free (kept _ _ found)

end CqlSchema.DataType

namespace CqlSchema.TypeRegistry

/-- A registry extends another one when the types of that one stand in front of its own. -/
def Extends (later earlier : TypeRegistry) : Prop :=
  earlier.types <+: later.types

namespace Extends

variable {earlier later : TypeRegistry}

/-! ## Answers that stay -/

/-- What resolved before resolves to the same type. -/
theorem resolve (growth : later.Extends earlier) {handle : Handle} {type : UserType}
    (found : earlier.resolve handle = some type) : later.resolve handle = some type := by
  obtain ⟨added, whole⟩ := growth
  have extended := resolve_append found added
  rw [whole] at extended
  exact extended

/-- A name that was found before is found as the same handle. -/
theorem lookup (growth : later.Extends earlier) {name : String} {handle : Handle}
    (found : earlier.lookup name = some handle) : later.lookup name = some handle := by
  obtain ⟨added, whole⟩ := growth
  obtain ⟨type, first, rfl⟩ := Option.map_eq_some_iff.1 found
  have stillFirst : later.types.find? (fun other => other.name == name) = some type := by
    rw [← whole, List.find?_append, first]
    rfl
  exact Option.map_eq_some_iff.2 ⟨type, stillFirst, rfl⟩

/-- A text that was read before is read as the same type. -/
theorem parse (growth : later.Extends earlier) {text : String} {type : DataType}
    (read : earlier.parse text = .ok type) : later.parse text = .ok type := by
  rw [parse_eq_ok_iff] at read ⊢
  exact read.of_lookup fun name handle found => growth.lookup found

/-! ## Needs that stay -/

/-- What handles needed before they still need. -/
theorem needs (growth : later.Extends earlier) {used : Handle → Prop} {type : UserType}
    (needed : earlier.Needs used type) : later.Needs used type := by
  induction needed with
  | direct isUsed found => exact .direct isUsed (growth.resolve found)
  | field _ inside mentioned found ih => exact .field ih inside mentioned (growth.resolve found)

/-- Handles that resolved before need nothing new. -/
theorem needs_before (growth : later.Extends earlier) (laws : earlier.WellFormed)
    {used : Handle → Prop}
    (own : ∀ handle, used handle → ∃ type, earlier.resolve handle = some type) {type : UserType}
    (needed : later.Needs used type) : earlier.Needs used type := by
  induction needed with
  | direct isUsed found =>
    obtain ⟨before, resolved⟩ := own _ isUsed
    have same := growth.resolve resolved
    rw [found] at same
    obtain rfl := Option.some.inj same
    exact .direct isUsed resolved
  | field _ inside mentioned found ih =>
    -- The field is one of an earlier type, so what it mentions is earlier still.
    obtain ⟨before, resolved, -⟩ := laws.earlier _ ih.mem _ inside _ mentioned
    have same := growth.resolve resolved
    rw [found] at same
    obtain rfl := Option.some.inj same
    exact .field ih inside mentioned resolved

end Extends

/-! ## Found types -/

/-- Of two selections in declaration order the smaller one is a part of the larger one in
order. -/
theorem WellFormed.sublist_of_subset {registry : TypeRegistry} (laws : registry.WellFormed)
    {first second : List UserType} (firstDeclared : first.Sublist registry.types)
    (secondDeclared : second.Sublist registry.types) (subset : first ⊆ second) :
    first.Sublist second := by
  have ordered : Std.Antisymm fun left right : UserType => left.index < right.index :=
    ⟨fun left right less more => absurd more (Nat.lt_asymm less)⟩
  have distinct : first.Nodup := (List.Nodup.of_map _ laws.distinct).sublist firstDeclared
  exact List.sublist_of_subperm_of_pairwise (List.subperm_of_subset distinct subset)
    (laws.sorted.sublist firstDeclared) (laws.sorted.sublist secondDeclared)

/-- The types that handles need are found when all the handles resolve. -/
theorem WellFormed.exists_needed {registry : TypeRegistry} (laws : registry.WellFormed)
    {used : List Handle}
    (own : ∀ handle ∈ used, ∃ type, registry.resolve handle = some type) :
    ∃ types, registry.needed used = .ok types := by
  cases outcome : registry.needed used with
  | ok types => exact ⟨types, rfl⟩
  | error refusal =>
    obtain ⟨handle, before, first, -⟩ := laws.needed_eq_error.1 outcome
    obtain ⟨member, unresolved⟩ := first.mem_and_holds
    have known := Option.isSome_iff_exists.2 (own handle (List.mem_reverse.1 member))
    rw [← resolves, unresolved] at known
    cases known

/-- A handle needs its own type alone where the fields of that type mention no type. -/
theorem WellFormed.needed_of_plain {registry : TypeRegistry} (laws : registry.WellFormed)
    {type : UserType} (found : registry.resolve type.handle = some type)
    (plain : type.dependencies = []) : registry.needed [type.handle] = .ok [type] := by
  obtain ⟨types, needed⟩ := laws.exists_needed (List.forall_mem_singleton.2 ⟨type, found⟩)
  have members : ∀ other, other ∈ types ↔ other ∈ [type] := by
    intro other
    rw [laws.mem_needed_iff needed, List.mem_singleton]
    constructor
    · intro needs
      induction needs with
      | direct isUsed resolved =>
        obtain rfl := List.mem_singleton.1 isUsed
        exact Option.some.inj (resolved.symm.trans found)
      | field _ inside mentioned _ same =>
        subst same
        have depends := mem_dependencies_iff.2 ⟨_, inside, mentioned⟩
        rw [plain] at depends
        cases depends
    · rintro rfl
      exact .direct (List.mem_singleton_self _) found
  have distinct : types.Nodup := (laws.distinct.of_map _).sublist (sublist_of_needed needed)
  have same : types.Perm [type] :=
    (List.perm_ext_iff_of_nodup distinct (List.nodup_singleton _)).2 members
  rw [needed, List.perm_singleton.1 same]

namespace Extends

variable {earlier later : TypeRegistry}

/-- More handles in a larger registry need all that was needed, in the same order. -/
theorem needed_sublist (growth : later.Extends earlier) (laws : earlier.WellFormed)
    (laterLaws : later.WellFormed) {used more : List Handle} (kept : used ⊆ more)
    {types laterTypes : List UserType} (found : earlier.needed used = .ok types)
    (laterFound : later.needed more = .ok laterTypes) : types.Sublist laterTypes := by
  have declared : types.Sublist later.types := (sublist_of_needed found).trans growth.sublist
  refine laterLaws.sublist_of_subset declared (sublist_of_needed laterFound) ?_
  intro type member
  have needed := growth.needs ((laws.mem_needed_iff found).1 member)
  refine (laterLaws.mem_needed_iff laterFound).2 ?_
  exact needed.of_needed fun handle isUsed denoted resolved => .direct (kept isUsed) resolved

/-- For handles that resolved before, the same types are found. -/
theorem needed_eq (growth : later.Extends earlier) (laws : earlier.WellFormed)
    (laterLaws : later.WellFormed) {used : List Handle}
    (own : ∀ handle ∈ used, ∃ type, earlier.resolve handle = some type) :
    later.needed used = earlier.needed used := by
  have laterOwn : ∀ handle ∈ used, ∃ type, later.resolve handle = some type := by
    intro handle member
    obtain ⟨type, resolved⟩ := own handle member
    exact ⟨type, growth.resolve resolved⟩
  obtain ⟨types, found⟩ := laws.exists_needed own
  obtain ⟨laterTypes, laterFound⟩ := laterLaws.exists_needed laterOwn
  have more : types.Sublist laterTypes :=
    growth.needed_sublist laws laterLaws (List.Subset.refl used) found laterFound
  have less : laterTypes.Sublist types := by
    refine laterLaws.sublist_of_subset (sublist_of_needed laterFound)
      ((sublist_of_needed found).trans growth.sublist) ?_
    intro type member
    have needed := (laterLaws.mem_needed_iff laterFound).1 member
    exact (laws.mem_needed_iff found).2 (growth.needs_before laws own needed)
  rw [found, laterFound, less.antisymm more]

end Extends

end CqlSchema.TypeRegistry
