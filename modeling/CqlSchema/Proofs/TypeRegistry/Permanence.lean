import CqlSchema.Proofs.TypeRegistry.Worklist
/-!
# Answers that last

A declaration that is carried out adds one type at the end of a registry and issues its handle; one
that is refused changes nothing. So whatever declarations follow, a registry only grows, and what it
answered it goes on to answer. The handles that were issued on the way, those that look-up finds and
those of the stored types are the same ones, since no two types share a number or a name.
-/

namespace CqlSchema.TypeRegistry

/-- Registry after declarations, one after the other, each of them carried out or refused. -/
def declareAll (registry : TypeRegistry) (calls : List (String × List (String × DataType))) :
    TypeRegistry :=
  calls.foldl (fun registry call => (registry.declare call.1 call.2).1) registry

/-- Handles that declarations issue, one after the other. -/
def issued (registry : TypeRegistry) : List (String × List (String × DataType)) → List Handle
  | [] => []
  | (name, fields) :: calls =>
    match registry.declare name fields with
    | (after, .error _) => after.issued calls
    | (after, .ok handle) => handle :: after.issued calls

/-! ## Growth -/

/-- A declaration only adds to a registry. -/
theorem extends_declare (registry : TypeRegistry) (name : String)
    (fields : List (String × DataType)) : (registry.declare name fields).1.Extends registry := by
  rcases shape : registry.declare name fields with ⟨after, outcome⟩
  cases outcome with
  | error refusal =>
    rw [declare_eq_error shape]
    exact List.prefix_rfl
  | ok handle =>
    show registry.types <+: after.types
    rw [(declare_eq_ok shape).1]
    exact List.prefix_append _ _

/-- Declarations only add to a registry. -/
theorem extends_declareAll (registry : TypeRegistry)
    (calls : List (String × List (String × DataType))) :
    (registry.declareAll calls).Extends registry := by
  induction calls generalizing registry with
  | nil => exact List.prefix_rfl
  | cons call calls ih =>
    have first : registry.types <+: (registry.declare call.1 call.2).1.types :=
      registry.extends_declare call.1 call.2
    exact first.trans (ih (registry.declare call.1 call.2).1)

/-- Declarations add types whose handles are the issued ones, in order. -/
theorem handles_declareAll (registry : TypeRegistry)
    (calls : List (String × List (String × DataType))) :
    (registry.declareAll calls).types.map UserType.handle =
      registry.types.map UserType.handle ++ registry.issued calls := by
  induction calls generalizing registry with
  | nil => exact (List.append_nil _).symm
  | cons call calls ih =>
    obtain ⟨name, fields⟩ := call
    have rest := ih (registry.declare name fields).1
    rcases shape : registry.declare name fields with ⟨after, outcome⟩
    rw [shape] at rest
    rw [declareAll, List.foldl_cons, shape, issued, shape]
    cases outcome with
    | error refusal =>
      rw [declare_eq_error shape] at rest ⊢
      exact rest
    | ok handle =>
      obtain ⟨added, rfl, -⟩ := declare_eq_ok shape
      refine rest.trans ?_
      rw [added, List.map_append, List.append_assoc]
      rfl

/-- Declarations after declarations are declarations. -/
theorem declareAll_append (registry : TypeRegistry)
    (calls more : List (String × List (String × DataType))) :
    registry.declareAll (calls ++ more) = (registry.declareAll calls).declareAll more :=
  List.foldl_append

/-- Declarations build exactly the reachable registries. -/
theorem reachable_iff {registry : TypeRegistry} :
    registry.Reachable ↔ ∃ calls, empty.declareAll calls = registry := by
  constructor
  · intro reachable
    induction reachable with
    | empty => exact ⟨[], rfl⟩
    | declare name fields _ ih =>
      obtain ⟨calls, rfl⟩ := ih
      exact ⟨calls ++ [(name, fields)], declareAll_append _ _ _⟩
  · rintro ⟨calls, rfl⟩
    induction calls using List.reverseRecOn with
    | nil => exact .empty
    | append_singleton calls call ih =>
      rw [declareAll_append]
      exact ih.declare call.1 call.2

/-- Declarations lead from a reachable registry to reachable ones. -/
theorem Reachable.declareAll {registry : TypeRegistry} (reachable : registry.Reachable)
    (calls : List (String × List (String × DataType))) :
    (registry.declareAll calls).Reachable := by
  obtain ⟨before, rfl⟩ := reachable_iff.1 reachable
  exact reachable_iff.2 ⟨before ++ calls, declareAll_append _ _ _⟩

/-! ## Lasting answers -/

/-- What one registry answers, another one answers too. -/
structure Lasting (earlier later : TypeRegistry) : Prop where
  /-- A handle resolves to the same type. -/
  resolve : ∀ handle type, earlier.resolve handle = some type → later.resolve handle = some type
  /-- A name is looked up as the same handle. -/
  lookup : ∀ name handle, earlier.lookup name = some handle → later.lookup name = some handle
  /-- A text is read as the same type. -/
  parse : ∀ text type, earlier.parse text = .ok type → later.parse text = .ok type
  /-- Handles that all resolve have the same closure. -/
  closure : ∀ used, (∀ handle ∈ used, ∃ type, earlier.resolve handle = some type) →
    ∃ numbers, earlier.closure used = .ok numbers ∧ later.closure used = .ok numbers

/-- A well-formed registry answers all that it answered before it grew. -/
theorem Extends.lasting {earlier later : TypeRegistry} (growth : later.Extends earlier)
    (laws : earlier.WellFormed) (laterLaws : later.WellFormed) : Lasting earlier later where
  resolve _ _ := growth.resolve
  lookup _ _ := growth.lookup
  parse _ _ := growth.parse
  closure used own := by
    obtain ⟨types, found⟩ := laws.exists_needed own
    have laterFound := (growth.needed_eq laws laterLaws own).trans found
    refine ⟨types.map UserType.index, ?_, ?_⟩
    · rw [laws.closure_eq_map_needed, found]
      rfl
    · rw [laterLaws.closure_eq_map_needed, laterFound]
      rfl

/-! ## Agreeing answers -/

/-- All ways to a handle of a registry agree. -/
structure Consistent (registry : TypeRegistry) : Prop where
  /-- Some declarations build the registry. -/
  built : ∃ calls, empty.declareAll calls = registry
  /-- Whichever declarations build it issue the handles of its types, in order. -/
  issued : ∀ calls, empty.declareAll calls = registry →
    empty.issued calls = registry.types.map UserType.handle
  /-- The handle of a type resolves to the type. -/
  resolved : ∀ type ∈ registry.types, registry.resolve type.handle = some type
  /-- Only the handle of a type resolves to it. -/
  handle_eq : ∀ handle type, registry.resolve handle = some type → type.handle = handle
  /-- Look-up finds the handle that resolves to a type with the name. -/
  lookup_iff : ∀ name handle, registry.lookup name = some handle ↔
    ∃ type ∈ registry.types, registry.resolve handle = some type ∧ type.name = name
  /-- No two types have the same number. -/
  numbers : (registry.types.map UserType.index).Nodup
  /-- No two types have the same name. -/
  names : (registry.types.map UserType.name).Nodup

/-- Look-up finds exactly the handles that resolve to a type with the name. -/
theorem WellFormed.lookup_eq_some_iff {registry : TypeRegistry} (laws : registry.WellFormed)
    {name : String} {handle : Handle} : registry.lookup name = some handle ↔
      ∃ type ∈ registry.types, registry.resolve handle = some type ∧ type.name = name := by
  constructor
  · intro found
    obtain ⟨type, member, named, rfl⟩ := exists_of_lookup found
    exact ⟨type, member, laws.resolve_handle member, named⟩
  · rintro ⟨type, -, resolved, rfl⟩
    rw [name_of_resolve resolved]
    exact laws.lookup_of_resolve resolved

/-- In every reachable registry all ways to a handle agree. -/
theorem Reachable.consistent {registry : TypeRegistry} (reachable : registry.Reachable) :
    registry.Consistent where
  built := reachable_iff.1 reachable
  issued calls whole := by
    rw [← whole, handles_declareAll]
    rfl
  resolved _ := reachable.wellFormed.resolve_handle
  handle_eq _ _ := reachable.wellFormed.handle_of_resolve
  lookup_iff _ _ := reachable.wellFormed.lookup_eq_some_iff
  numbers := by
    rw [reachable.wellFormed.map_index]
    exact List.nodup_range
  names := by
    have folded := reachable.wellFormed.distinct
    rw [← Function.comp_def, ← List.map_map] at folded
    exact List.Nodup.of_map _ folded

/-- In every reachable registry all ways to a handle agree, and whatever is declared afterwards, it
goes on to answer what it answered. -/
theorem answers_last {registry : TypeRegistry} (reachable : registry.Reachable) :
    registry.Consistent ∧ ∀ calls, Lasting registry (registry.declareAll calls) := by
  refine ⟨reachable.consistent, fun calls => ?_⟩
  exact (registry.extends_declareAll calls).lasting reachable.wellFormed
    (reachable.declareAll calls).wellFormed

/-- A registry of two types and what it answers, before and after a declaration that is refused and
one that is carried out. -/
theorem answers_last_beside_refusal :
    let registry := empty.declareAll [("Point", [("x", .scalar false .int)]),
      ("Path", [("points", .list true (.user false ⟨0, "Point"⟩))])]
    let later := registry.declareAll [("POINT", [("y", .scalar false .text)]),
      ("Area", [("border", .user true ⟨1, "Path"⟩)])]
    registry.Reachable ∧ registry.size = 2 ∧ later.size = 3 ∧
      registry.lookup "Path" = some ⟨1, "Path"⟩ ∧ later.lookup "Path" = some ⟨1, "Path"⟩ ∧
      later.parse "list<frozen<Path>>" = .ok (.list false (.user true ⟨1, "Path"⟩)) ∧
      ∃ numbers, registry.closure [⟨1, "Path"⟩] = .ok numbers ∧
        later.closure [⟨1, "Path"⟩] = .ok numbers := by
  intro registry later
  have reachable : registry.Reachable := reachable_iff.2 ⟨_, rfl⟩
  have found : registry.lookup "Path" = some ⟨1, "Path"⟩ := by decide
  have read : registry.parse "list<frozen<Path>>" =
      .ok (.list false (.user true ⟨1, "Path"⟩)) := by decide +kernel
  obtain ⟨consistent, lasting⟩ := answers_last reachable
  have lasts : Lasting registry later := lasting _
  obtain ⟨type, -, resolved, -⟩ := (consistent.lookup_iff _ _).1 found
  exact ⟨reachable, by decide, by decide, found, lasts.lookup _ _ found, lasts.parse _ _ read,
    lasts.closure _ (List.forall_mem_singleton.2 ⟨type, resolved⟩)⟩

end CqlSchema.TypeRegistry
