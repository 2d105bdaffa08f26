import CqlSchema.Proofs.TypeRegistry.Permanence
/-!
# What the statements for types depend on

The statements for types are those for the types that some handles need. For handles of a registry
they are one for every number of the closure, in increasing order, and neither the order of the
handles nor their repetition counts. A handle of another registry is refused, the last one first.
-/

namespace CqlSchema

open Outcome

namespace TypeRegistry

/-- What the closure of handles is, and which statements create it. -/
structure ClosesOver (registry : TypeRegistry) (keyspace : String) (used : List Handle) : Prop where
  /-- The search ends, after no more turns than there are used handles and handles in fields, and
  what it has seen is the closure, in increasing order. -/
  ends : ∃ turns ≤ used.length + (registry.types.flatMap UserType.dependencies).length,
    ∃ outcome, registry.Ends turns ⟨∅, used⟩ outcome ∧
      registry.closure used = outcome.map fun seen => seen.sort
  /-- The last handle that does not resolve is reported. -/
  refused : ∀ before handle after, used = before ++ handle :: after →
    registry.resolve handle = none →
    (∀ later ∈ after, ∃ type, registry.resolve later = some type) →
      registry.closure used = .error (.invalidType handle.name .undeclared) ∧
      registry.creations keyspace used = .error (.invalidType handle.name .undeclared)
  /-- Where all handles resolve, the closure is the least closed set, and its statements are one for
  every number in it, in increasing order. -/
  found : (∀ handle ∈ used, ∃ type, registry.resolve handle = some type) →
    ∃ numbers texts, registry.closure used = .ok numbers ∧
      registry.creations keyspace used = .ok texts ∧
      numbers.Pairwise (· < ·) ∧
      IsLeast {set | registry.Closed used set} {number | number ∈ numbers} ∧
      List.Forall₂ (fun number text => ∃ type, registry.types[number]? = some type ∧
        text = (Statement.createType keyspace type).text) numbers texts

variable {registry : TypeRegistry}

/-- The last handle that does not resolve is reported. -/
theorem WellFormed.needed_of_unresolved (laws : registry.WellFormed) (before : List Handle)
    {after : List Handle} {handle : Handle} (unresolved : registry.resolve handle = none)
    (own : ∀ later ∈ after, ∃ type, registry.resolve later = some type) :
    registry.needed (before ++ handle :: after) = .error (foreign handle) := by
  refine laws.needed_eq_error.2 ⟨handle, before.reverse, ⟨after.reverse, ?_, ?_, ?_⟩, rfl⟩
  · simp
  · show registry.resolves handle = false
    rw [resolves, unresolved, Option.isSome_none]
  · intro later member
    show ¬ registry.resolves later = false
    rw [resolves, Option.isSome_iff_exists.2 (own later (List.mem_reverse.1 member))]
    decide

/-- The types that are found stand at the numbers of the closure. -/
theorem WellFormed.forall₂_creations (laws : registry.WellFormed) (keyspace : String)
    {types : List UserType} (declared : types.Sublist registry.types) :
    List.Forall₂ (fun number text => ∃ type, registry.types[number]? = some type ∧
        text = (Statement.createType keyspace type).text)
      (types.map UserType.index)
      (types.map fun type => (Statement.createType keyspace type).text) := by
  rw [List.forall₂_map_left_iff, List.forall₂_map_right_iff, List.forall₂_same]
  intro type member
  exact ⟨type, laws.place_of_mem (declared.subset member), rfl⟩

/-- In a well-formed registry the closure of all handles is as it should be. -/
theorem WellFormed.closesOver (laws : registry.WellFormed) (keyspace : String)
    (used : List Handle) : registry.ClosesOver keyspace used where
  ends := laws.ends_closure used
  refused before handle after split unresolved own := by
    have failed := laws.needed_of_unresolved before unresolved own
    rw [laws.closure_eq_map_needed, creations, split, failed]
    exact ⟨rfl, rfl⟩
  found own := by
    obtain ⟨types, found⟩ := laws.exists_needed own
    have declared := sublist_of_needed found
    refine ⟨types.map UserType.index,
      types.map fun type => (Statement.createType keyspace type).text, ?_, ?_, ?_, ?_, ?_⟩
    · rw [laws.closure_eq_map_needed, found]
      rfl
    · rw [creations, found]
      rfl
    · exact List.pairwise_map.2 (laws.sorted.sublist declared)
    · exact laws.isLeast_needed own found
    · exact laws.forall₂_creations keyspace declared

/-- Of three searches the first finds what the second and the third find together. -/
def FindsUnion {α : Type} (whole first second : Except SchemaError (List α)) : Prop :=
  ∃ all some others, whole = .ok all ∧ first = .ok some ∧ second = .ok others ∧
    ∀ item, item ∈ all ↔ item ∈ some ∨ item ∈ others

/-- What is made of all that is found is made of what is found in either search. -/
theorem FindsUnion.map {α β : Type} {whole first second : Except SchemaError (List α)}
    (union : FindsUnion whole first second) (change : α → β) :
    FindsUnion (whole.map (List.map change)) (first.map (List.map change))
      (second.map (List.map change)) := by
  obtain ⟨all, some, others, rfl, rfl, rfl, members⟩ := union
  refine ⟨_, _, _, rfl, rfl, rfl, fun item => ?_⟩
  simp only [List.mem_map, members, or_and_right, exists_or]

/-- Handles of two lists together need the types that those of either list need. -/
theorem WellFormed.findsUnion_needed (laws : registry.WellFormed) {used other : List Handle}
    (own : ∀ handle ∈ used ++ other, ∃ type, registry.resolve handle = some type) :
    FindsUnion (registry.needed (used ++ other)) (registry.needed used)
      (registry.needed other) := by
  obtain ⟨usedOwn, otherOwn⟩ := List.forall_mem_append.1 own
  obtain ⟨all, foundAll⟩ := laws.exists_needed own
  obtain ⟨some, foundSome⟩ := laws.exists_needed usedOwn
  obtain ⟨others, foundOthers⟩ := laws.exists_needed otherOwn
  refine ⟨all, some, others, foundAll, foundSome, foundOthers, fun type => ?_⟩
  rw [laws.mem_needed_iff foundAll, laws.mem_needed_iff foundSome, laws.mem_needed_iff foundOthers,
    needs_append_iff]

/-- Over every reachable registry the search ends, and the closure of handles and the statements
for it are as they should be. The order and the repetition of handles that resolve do not count,
and two lists of them together have the union of what either has. -/
theorem closure_of_handles (reachable : registry.Reachable) (keyspace : String) :
    (∀ used, registry.ClosesOver keyspace used) ∧
    (∀ used other, (∀ handle ∈ used, ∃ type, registry.resolve handle = some type) →
      (∀ handle, handle ∈ other ↔ handle ∈ used) →
        registry.closure other = registry.closure used ∧
        registry.creations keyspace other = registry.creations keyspace used) ∧
    (∀ used other, (∀ handle ∈ used ++ other, ∃ type, registry.resolve handle = some type) →
      FindsUnion (registry.closure (used ++ other)) (registry.closure used)
        (registry.closure other) ∧
      FindsUnion (registry.creations keyspace (used ++ other))
        (registry.creations keyspace used) (registry.creations keyspace other)) := by
  have laws := reachable.wellFormed
  refine ⟨laws.closesOver keyspace, ?_, ?_⟩
  · intro used other own same
    have needed := laws.needed_congr (fun handle => (same handle).symm) own
    rw [laws.closure_eq_map_needed, laws.closure_eq_map_needed, creations, creations, needed]
    exact ⟨rfl, rfl⟩
  · intro used other own
    have union := laws.findsUnion_needed own
    refine ⟨?_, union.map _⟩
    simp only [laws.closure_eq_map_needed]
    exact union.map _

/-- A type that mentions another one twice, beside a third type: the closure of its handle, given
twice, and what is said of it when a handle of another registry follows. -/
theorem closure_of_repeated_handles :
    let registry := empty.declareAll
      [("Point", [("x", .scalar false .int)]), ("Spare", [("y", .scalar false .int)]),
        ("Path", [("points", .list true (.user false ⟨0, "Point"⟩)),
          ("marks", .map false (.scalar false .text) (.user true ⟨0, "Point"⟩))])]
    registry.closure [⟨2, "Path"⟩, ⟨2, "Path"⟩] = .ok [0, 2] ∧
      registry.closure [⟨2, "Path"⟩, ⟨0, "Place"⟩, ⟨2, "Path"⟩, ⟨1, "Point"⟩, ⟨0, "Point"⟩] =
        .error (.invalidType "Point" .undeclared) ∧
      registry.ClosesOver "ks" [⟨2, "Path"⟩, ⟨2, "Path"⟩] ∧
      registry.closure [⟨0, "Point"⟩, ⟨2, "Path"⟩] =
        registry.closure [⟨2, "Path"⟩, ⟨0, "Point"⟩, ⟨2, "Path"⟩] ∧
      FindsUnion (registry.closure [⟨2, "Path"⟩, ⟨1, "Spare"⟩]) (registry.closure [⟨2, "Path"⟩])
        (registry.closure [⟨1, "Spare"⟩]) := by
  intro registry
  let point : UserType := ⟨0, "Point", [("x", .scalar false .int)]⟩
  let spare : UserType := ⟨1, "Spare", [("y", .scalar false .int)]⟩
  have reachable : registry.Reachable := reachable_iff.2 ⟨_, rfl⟩
  have atPoint : registry.resolve point.handle = some point := by decide
  have atSpare : registry.resolve spare.handle = some spare := by decide
  let path : UserType := ⟨2, "Path", [("points", .list true (.user false point.handle)),
    ("marks", .map false (.scalar false .text) (.user true point.handle))]⟩
  have atPath : registry.resolve path.handle = some path := by decide
  have follows : registry.follow (List.range registry.size) [path.handle, path.handle] =
      .ok [1] := by
    show registry.follow [0, 1, 2] [path.handle, path.handle] = .ok [1]
    rw [TypeRegistry.follow, atPath]
    show registry.follow [0, 1] [point.handle, point.handle, path.handle] = .ok [1]
    rw [TypeRegistry.follow, atPoint]
    show registry.follow [1] [point.handle, path.handle] = .ok [1]
    rw [TypeRegistry.follow, atPoint]
    show registry.follow [1] [path.handle] = .ok [1]
    rw [TypeRegistry.follow, atPath]
    show registry.follow [1] [] = .ok [1]
    rw [TypeRegistry.follow]
  obtain ⟨closes, regardless, together⟩ := closure_of_handles reachable "ks"
  refine ⟨?_, ?_, closes _, ?_, ?_⟩
  · show registry.closure [path.handle, path.handle] = .ok [0, 2]
    rw [closure, List.reverse_cons, List.reverse_singleton, List.singleton_append, follows]
    rfl
  · exact ((closes _).refused [path.handle, ⟨0, "Place"⟩, path.handle] ⟨1, "Point"⟩ [point.handle]
      rfl (by decide) (List.forall_mem_singleton.2 ⟨point, atPoint⟩)).1
  · refine (regardless [path.handle, point.handle, path.handle] [point.handle, path.handle] ?_
      fun handle => ?_).1
    · exact List.forall_mem_cons.2 ⟨⟨path, atPath⟩, List.forall_mem_cons.2
        ⟨⟨point, atPoint⟩, List.forall_mem_singleton.2 ⟨path, atPath⟩⟩⟩
    · simp only [List.mem_cons, List.not_mem_nil, or_false]
      tauto
  · refine (together [path.handle] [spare.handle] ?_).1
    exact List.forall_mem_cons.2 ⟨⟨path, atPath⟩, List.forall_mem_singleton.2 ⟨spare, atSpare⟩⟩

end TypeRegistry

end CqlSchema
