import CqlSchema.Proofs.TypeRegistry.Growth
import Mathlib.Data.Finset.Sort
/-!
# The search for needed types, turn by turn

The search keeps the set of the numbers it has seen and a stack of handles. A turn takes the handle
on top; the first time that a type is met, all that its fields mention goes onto the stack. So every
handle that is ever on the stack is a used one or one that some type depends on, and it is taken
once: `Ends` counts the turns, and there are at most as many as there are such handles. What is seen
at the end is the least set of numbers with those of the used handles that is closed under the
fields of its types, so it does not depend on the order or the repetition of the handles.
-/

namespace CqlSchema.TypeRegistry

open Outcome

/-! ## Turns -/

/-- State of the search: the numbers that have been seen, and the handles still to follow, of which
the last one is the top of the stack. -/
structure Search where
  seen : Finset Nat
  pending : List Handle
  deriving DecidableEq

/-- One turn of the search. It goes on in another state, or ends with the numbers that have been
seen or with a handle that does not resolve. -/
def turn (registry : TypeRegistry) (search : Search) : Search ⊕ Except SchemaError (Finset Nat) :=
  match search.pending.getLast? with
  | none => .inr (.ok search.seen)
  | some handle =>
    match registry.resolve handle with
    | none => .inr (.error (foreign handle))
    | some type =>
      if type.index ∈ search.seen then .inl ⟨search.seen, search.pending.dropLast⟩
      else .inl ⟨insert type.index search.seen, search.pending.dropLast ++ type.dependencies⟩

/-- The search ends with an outcome after some turns. -/
inductive Ends (registry : TypeRegistry) :
    Nat → Search → Except SchemaError (Finset Nat) → Prop where
  | last {search : Search} {outcome : Except SchemaError (Finset Nat)} :
      registry.turn search = .inr outcome → Ends registry 0 search outcome
  | next {turns : Nat} {search after : Search} {outcome : Except SchemaError (Finset Nat)} :
      registry.turn search = .inl after → Ends registry turns after outcome →
      Ends registry (turns + 1) search outcome

variable {registry : TypeRegistry}

/-- Without handles to follow the search ends with what has been seen. -/
theorem turn_nil (seen : Finset Nat) : registry.turn ⟨seen, []⟩ = .inr (.ok seen) :=
  rfl

/-- A handle that does not resolve ends the search. -/
theorem turn_unresolved {handle : Handle} (unresolved : registry.resolve handle = none)
    (seen : Finset Nat) (rest : List Handle) :
    registry.turn ⟨seen, rest ++ [handle]⟩ = .inr (.error (foreign handle)) := by
  simp only [turn, List.getLast?_concat, unresolved]

/-- A handle of a type that has been seen is only taken off the stack. -/
theorem turn_skip {handle : Handle} {type : UserType} (found : registry.resolve handle = some type)
    {seen : Finset Nat} (known : type.index ∈ seen) (rest : List Handle) :
    registry.turn ⟨seen, rest ++ [handle]⟩ = .inl ⟨seen, rest⟩ := by
  simp only [turn, List.getLast?_concat, found, if_pos known, List.dropLast_concat]

/-- A handle of a type that has not been seen gives way to the handles that this type depends on. -/
theorem turn_visit {handle : Handle} {type : UserType} (found : registry.resolve handle = some type)
    {seen : Finset Nat} (new : type.index ∉ seen) (rest : List Handle) :
    registry.turn ⟨seen, rest ++ [handle]⟩ =
      .inl ⟨insert type.index seen, rest ++ type.dependencies⟩ := by
  simp only [turn, List.getLast?_concat, found, if_neg new, List.dropLast_concat]

/-! ## Counting the turns -/

/-- Number of handles that the types with the given numbers will put onto the stack. -/
def weight (registry : TypeRegistry) (unseen : List Nat) : Nat :=
  (unseen.flatMap fun number => (registry.types[number]?).elim [] UserType.dependencies).length

/-- Seeing a type takes the handles that it depends on away from those that are to come. -/
theorem weight_erase {unseen : List Nat} {number : Nat} {type : UserType}
    (place : registry.types[number]? = some type) (member : number ∈ unseen) :
    type.dependencies.length + registry.weight (unseen.erase number) = registry.weight unseen := by
  have removed := ((List.perm_cons_erase member).flatMap_right fun number =>
    (registry.types[number]?).elim [] UserType.dependencies).length_eq
  rw [List.flatMap_cons, place, List.length_append] at removed
  exact removed.symm

/-- At first the handles that all types depend on are to come. -/
theorem weight_range (registry : TypeRegistry) :
    registry.weight (List.range registry.size) =
      (registry.types.flatMap UserType.dependencies).length := by
  have each : ((List.range registry.size).map fun number =>
      (registry.types[number]?).elim [] UserType.dependencies) =
      registry.types.map UserType.dependencies := by
    refine List.ext_getElem (by simp [size]) fun position _ bound => ?_
    have inside : position < registry.types.length := by simpa using bound
    simp [List.getElem?_eq_getElem inside]
  rw [weight, List.flatMap_def, each, List.flatMap_def]

/-- Numbers of types that are not among the unseen ones. -/
def seenBeside (registry : TypeRegistry) (unseen : List Nat) : Finset Nat :=
  (Finset.range registry.size).filter (· ∉ unseen)

theorem mem_seenBeside_iff {unseen : List Nat} {number : Nat} :
    number ∈ registry.seenBeside unseen ↔ number < registry.size ∧ number ∉ unseen := by
  simp [seenBeside]

/-- At first nothing has been seen. -/
theorem seenBeside_range (registry : TypeRegistry) :
    registry.seenBeside (List.range registry.size) = ∅ := by
  ext number
  simp [mem_seenBeside_iff]

/-- Whatever is taken from the unseen numbers has been seen. -/
theorem seenBeside_erase {unseen : List Nat} (distinct : unseen.Nodup) {number : Nat}
    (bound : number < registry.size) :
    registry.seenBeside (unseen.erase number) = insert number (registry.seenBeside unseen) := by
  ext other
  simp only [mem_seenBeside_iff, Finset.mem_insert, distinct.mem_erase_iff, not_and]
  by_cases same : other = number
  · simp [same, bound]
  · simp [same]

/-- Following a stack is searching with it, and the search ends after at most one turn for every
handle on the stack and every handle that is to come. -/
theorem WellFormed.ends_follow (laws : registry.WellFormed) {unseen : List Nat}
    (distinct : unseen.Nodup) (pending : List Handle) :
    ∃ turns ≤ pending.length + registry.weight unseen,
      registry.Ends turns ⟨registry.seenBeside unseen, pending.reverse⟩
        ((registry.follow unseen pending).map registry.seenBeside) := by
  induction unseen, pending using follow.induct registry with
  | case1 unseen =>
    refine ⟨0, Nat.zero_le _, .last ?_⟩
    rw [follow]
    exact turn_nil _
  | case2 unseen handle pending unresolved =>
    refine ⟨0, Nat.zero_le _, .last ?_⟩
    rw [follow, unresolved, List.reverse_cons]
    exact turn_unresolved unresolved _ _
  | case3 unseen handle pending type found member ih =>
    obtain ⟨turns, few, ends⟩ := ih (distinct.erase _)
    have place := (resolve_eq_some_iff.1 found).1
    have same : type.index = handle.index := laws.index_eq _ _ place
    have new : type.index ∉ registry.seenBeside unseen := by
      rw [same, mem_seenBeside_iff]
      exact fun seen => seen.2 member
    have turned : registry.turn ⟨registry.seenBeside unseen, (handle :: pending).reverse⟩ =
        .inl ⟨registry.seenBeside (unseen.erase handle.index),
          (type.dependencies.reverse ++ pending).reverse⟩ := by
      rw [List.reverse_cons, turn_visit found new, same,
        seenBeside_erase distinct (index_lt_of_resolve found), List.reverse_append,
        List.reverse_reverse]
    refine ⟨turns + 1, ?_, .next turned ?_⟩
    · have taken := weight_erase place member
      rw [List.length_append, List.length_reverse] at few
      rw [List.length_cons]
      omega
    · rw [follow, found]
      simp only [member, ↓reduceIte]
      exact ends
  | case4 unseen handle pending type found seen ih =>
    obtain ⟨turns, few, ends⟩ := ih distinct
    have same : type.index = handle.index := laws.index_eq _ _ (resolve_eq_some_iff.1 found).1
    have known : type.index ∈ registry.seenBeside unseen := by
      rw [same, mem_seenBeside_iff]
      exact ⟨index_lt_of_resolve found, seen⟩
    have turned : registry.turn ⟨registry.seenBeside unseen, (handle :: pending).reverse⟩ =
        .inl ⟨registry.seenBeside unseen, pending.reverse⟩ := by
      rw [List.reverse_cons, turn_skip found known]
    refine ⟨turns + 1, ?_, .next turned ?_⟩
    · rw [List.length_cons]
      omega
    · rw [follow, found]
      simp only [seen, ↓reduceIte]
      exact ends

/-- The closure of handles is what the search over them sees, in increasing order. -/
theorem closure_eq_map_follow (registry : TypeRegistry) (used : List Handle) :
    registry.closure used = (registry.follow (List.range registry.size) used.reverse).map
      fun unseen => (registry.seenBeside unseen).sort := by
  rw [closure]
  cases registry.follow (List.range registry.size) used.reverse with
  | error refusal => rfl
  | ok unseen =>
    refine congrArg Except.ok ?_
    have sorted : (List.range registry.size).Pairwise (· ≤ ·) := List.pairwise_le_range
    have distinct : ((List.range registry.size).filter fun number =>
        !unseen.contains number).Nodup := List.nodup_range.filter _
    rw [← (List.toFinset_sort (· ≤ ·) distinct).2 (sorted.filter _)]
    congr 1
    ext number
    simp [mem_seenBeside_iff]

/-- The search over handles ends after at most one turn for every used handle and every handle in a
field, and the closure is its outcome. -/
theorem WellFormed.ends_closure (laws : registry.WellFormed) (used : List Handle) :
    ∃ turns ≤ used.length + (registry.types.flatMap UserType.dependencies).length, ∃ outcome,
      registry.Ends turns ⟨∅, used⟩ outcome ∧
        registry.closure used = outcome.map fun seen => seen.sort := by
  obtain ⟨turns, few, ends⟩ := laws.ends_follow List.nodup_range used.reverse
  rw [seenBeside_range, List.reverse_reverse] at ends
  rw [List.length_reverse, weight_range] at few
  refine ⟨turns, few, _, ends, ?_⟩
  rw [closure_eq_map_follow]
  cases registry.follow (List.range registry.size) used.reverse with
  | error refusal => rfl
  | ok unseen => rfl

/-! ## What the closure holds -/

/-- In a well-formed registry the numbers of the types are those below its size. -/
theorem WellFormed.map_index (laws : registry.WellFormed) :
    registry.types.map UserType.index = List.range registry.size := by
  refine List.ext_getElem (by simp [size]) fun position bound _ => ?_
  have inside : position < registry.types.length := by simpa using bound
  rw [List.getElem_map, List.getElem_range]
  exact laws.index_eq _ _ (List.getElem?_eq_getElem inside)

/-- The closure of handles holds the numbers of the types that they need, in declaration order. -/
theorem WellFormed.closure_eq_map_needed (laws : registry.WellFormed) (used : List Handle) :
    registry.closure used = (registry.needed used).map (List.map UserType.index) := by
  rw [needed]
  cases found : registry.closure used with
  | error refusal => rfl
  | ok numbers =>
    have selected : (registry.types.filter fun type => numbers.contains type.index).map
        UserType.index = (registry.types.map UserType.index).filter numbers.contains := by
      rw [List.filter_map]
      rfl
    refine congrArg Except.ok (Eq.trans ?_ selected.symm)
    obtain ⟨unseen, -, taken⟩ := bind_eq_ok.1 found
    cases taken
    rw [laws.map_index]
    refine List.filter_congr fun number member => ?_
    simp [List.mem_range.1 member]

/-- Numbers that hold those of the used handles, and with those of a type those of all handles that
its fields mention at any depth. -/
structure Closed (registry : TypeRegistry) (used : List Handle) (numbers : Set Nat) : Prop where
  /-- Used handles are in. -/
  used : ∀ handle ∈ used, handle.index ∈ numbers
  /-- Handles in the fields of a type are in when the type is. -/
  fields : ∀ type ∈ registry.types, type.index ∈ numbers → ∀ field ∈ type.fields, ∀ handle,
    field.2.Mentions handle → handle.index ∈ numbers

/-- The numbers of the needed types are the least closed set. -/
theorem WellFormed.isLeast_needed (laws : registry.WellFormed) {used : List Handle}
    (own : ∀ handle ∈ used, ∃ type, registry.resolve handle = some type) {types : List UserType}
    (found : registry.needed used = .ok types) :
    IsLeast {numbers | registry.Closed used numbers}
      {number | number ∈ types.map UserType.index} := by
  have index_of_resolve : ∀ {handle type}, registry.resolve handle = some type →
      type.index = handle.index :=
    fun resolved => laws.index_eq _ _ (resolve_eq_some_iff.1 resolved).1
  have mem_iff : ∀ number, number ∈ types.map UserType.index ↔
      ∃ type, registry.Needs (· ∈ used) type ∧ type.index = number := by
    simp only [List.mem_map, laws.mem_needed_iff found, implies_true]
  constructor
  · constructor
    · intro handle isUsed
      obtain ⟨type, resolved⟩ := own handle isUsed
      exact (mem_iff _).2 ⟨type, .direct isUsed resolved, index_of_resolve resolved⟩
    · intro type member isIn field inside handle mentioned
      obtain ⟨other, otherNeeded, same⟩ := (mem_iff _).1 isIn
      have place := laws.place_of_mem otherNeeded.mem
      rw [same, laws.place_of_mem member] at place
      obtain rfl := Option.some.inj place
      obtain ⟨dependency, resolved, -⟩ := laws.earlier type member field inside handle mentioned
      exact (mem_iff _).2
        ⟨dependency, .field otherNeeded inside mentioned resolved, index_of_resolve resolved⟩
  · rintro numbers ⟨holdsUsed, holdsFields⟩ number isIn
    obtain ⟨type, typeNeeded, rfl⟩ := (mem_iff _).1 isIn
    induction typeNeeded with
    | direct isUsed resolved =>
      rw [index_of_resolve resolved]
      exact holdsUsed _ isUsed
    | field source inside mentioned resolved ih =>
      rw [index_of_resolve resolved]
      exact holdsFields _ source.mem (ih ((mem_iff _).2 ⟨_, source, rfl⟩)) _ inside _ mentioned

/-! ## Order and repetition of handles -/

/-- Handles of two lists together need what those of the one or those of the other need. -/
theorem needs_append_iff {used other : List Handle} {type : UserType} :
    registry.Needs (· ∈ used ++ other) type ↔
      registry.Needs (· ∈ used) type ∨ registry.Needs (· ∈ other) type := by
  constructor
  · intro needed
    induction needed with
    | direct isUsed resolved =>
      rcases List.mem_append.1 isUsed with first | second
      · exact .inl (.direct first resolved)
      · exact .inr (.direct second resolved)
    | field _ inside mentioned resolved ih =>
      rcases ih with first | second
      · exact .inl (.field first inside mentioned resolved)
      · exact .inr (.field second inside mentioned resolved)
  · rintro (first | second)
    · exact first.of_needed fun handle isUsed _ resolved =>
        .direct (List.mem_append_left _ isUsed) resolved
    · exact second.of_needed fun handle isUsed _ resolved =>
        .direct (List.mem_append_right _ isUsed) resolved

/-- The same handles in another order, or repeated, need the same types. -/
theorem WellFormed.needed_congr (laws : registry.WellFormed) {used other : List Handle}
    (same : ∀ handle, handle ∈ used ↔ handle ∈ other)
    (own : ∀ handle ∈ used, ∃ type, registry.resolve handle = some type) :
    registry.needed used = registry.needed other := by
  have itself : registry.Extends registry := List.prefix_rfl
  obtain ⟨types, found⟩ := laws.exists_needed own
  obtain ⟨others, otherFound⟩ :=
    laws.exists_needed fun handle isUsed => own handle ((same handle).2 isUsed)
  have part := itself.needed_sublist laws laws (fun handle => (same handle).1) found otherFound
  have whole := itself.needed_sublist laws laws (fun handle => (same handle).2) otherFound found
  rw [found, otherFound, part.antisymm whole]

end CqlSchema.TypeRegistry
