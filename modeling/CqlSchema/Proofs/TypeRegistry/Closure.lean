import CqlSchema.Proofs.Outcome
import CqlSchema.Proofs.TypeRegistry.Invariant
import CqlSchema.TypeRegistry.Closure
/-!
# What the search for needed types finds

`Needs` says which types handles need, without a stack or a list of numbers: those that the
handles denote, and those that the fields of a needed type mention. `Followed` is what following
a stack achieves; every step of the search keeps it. In a well-formed registry the types that
are found are exactly those that are needed, in declaration order, and nothing is found only
when one of the given handles itself does not resolve.
-/

namespace CqlSchema.TypeRegistry

/-- A type mentions a handle when one of its fields does. -/
theorem mem_dependencies_iff {type : UserType} {handle : Handle} :
    handle ∈ type.dependencies ↔ ∃ field ∈ type.fields, field.2.Mentions handle := by
  simp only [UserType.dependencies, List.mem_flatMap, DataType.mem_userTypes_iff]

/-- Types that the used handles need, through any chain of fields. -/
inductive Needs (registry : TypeRegistry) (used : Handle → Prop) : UserType → Prop where
  | direct {handle : Handle} {type : UserType} :
      used handle → registry.resolve handle = some type → Needs registry used type
  | field {type dependency : UserType} {field : String × DataType} {handle : Handle} :
      Needs registry used type → field ∈ type.fields → field.2.Mentions handle →
      registry.resolve handle = some dependency → Needs registry used dependency

/-- Every needed type is one of the registry. -/
theorem Needs.mem {registry : TypeRegistry} {used : Handle → Prop} {type : UserType}
    (needed : registry.Needs used type) : type ∈ registry.types := by
  cases needed with
  | direct _ found => exact mem_of_resolve found
  | field _ _ _ found => exact mem_of_resolve found

/-- What handles need is needed by any others that need the types of these handles. -/
theorem Needs.of_needed {registry : TypeRegistry} {used other : Handle → Prop}
    (covers : ∀ handle, used handle → ∀ type, registry.resolve handle = some type →
      registry.Needs other type) {type : UserType} (needed : registry.Needs used type) :
    registry.Needs other type := by
  induction needed with
  | direct isUsed found => exact covers _ isUsed _ found
  | field _ member mentioned found ih => exact .field ih member mentioned found

/-! ## Following a stack -/

/-- What following a stack achieves: of the numbers that were unseen at first, `rest` are those
that are unseen at last. -/
structure Followed (registry : TypeRegistry) (unseen : List Nat) (pending : List Handle)
    (rest : List Nat) : Prop where
  /-- What is unseen at last was unseen at first. -/
  remaining : ∀ number ∈ rest, number ∈ unseen
  /-- Every handle of the stack resolves, and its number has been seen. -/
  reached : ∀ handle ∈ pending,
    ∃ type, registry.resolve handle = some type ∧ handle.index ∉ rest
  /-- Every handle that a type seen on the way depends on resolves, and its number has been
  seen. -/
  closed : ∀ number ∈ unseen, number ∉ rest → ∀ type, registry.types[number]? = some type →
    ∀ handle ∈ type.dependencies,
      ∃ dependency, registry.resolve handle = some dependency ∧ handle.index ∉ rest
  /-- Every number seen on the way is that of a type which the stack needs. -/
  needed : ∀ number ∈ unseen, number ∉ rest →
    ∃ type, registry.types[number]? = some type ∧ registry.Needs (· ∈ pending) type

/-- Without handles to follow nothing more is seen. -/
theorem followed_nil (registry : TypeRegistry) (unseen : List Nat) :
    registry.Followed unseen [] unseen where
  remaining _ member := member
  reached _ member := by cases member
  closed _ member seen := absurd member seen
  needed _ member seen := absurd member seen

/-- A handle whose number has been seen is left out. -/
theorem Followed.skip {registry : TypeRegistry} {unseen rest : List Nat} {handle : Handle}
    {pending : List Handle} {type : UserType} (followed : registry.Followed unseen pending rest)
    (found : registry.resolve handle = some type) (seen : handle.index ∉ unseen) :
    registry.Followed unseen (handle :: pending) rest where
  remaining := followed.remaining
  reached other member := by
    rcases List.mem_cons.1 member with rfl | later
    · exact ⟨type, found, fun unseenStill => seen (followed.remaining _ unseenStill)⟩
    · exact followed.reached other later
  closed := followed.closed
  needed number member seenNow := by
    obtain ⟨other, place, needed⟩ := followed.needed number member seenNow
    refine ⟨other, place, needed.of_needed fun used inPending _ denoted => ?_⟩
    exact .direct (List.mem_cons_of_mem _ inPending) denoted

/-- A handle whose number has not been seen gives way to the handles its type depends on. -/
theorem Followed.visit {registry : TypeRegistry} {unseen rest : List Nat} {handle : Handle}
    {pending : List Handle} {type : UserType} (distinct : unseen.Nodup)
    (followed : registry.Followed (unseen.erase handle.index)
      (type.dependencies.reverse ++ pending) rest)
    (found : registry.resolve handle = some type) :
    registry.Followed unseen (handle :: pending) rest := by
  have place := (resolve_eq_some_iff.1 found).1
  have gone : handle.index ∉ rest := by
    intro unseenStill
    exact distinct.not_mem_erase (followed.remaining _ unseenStill)
  have first : registry.Needs (· ∈ handle :: pending) type :=
    .direct List.mem_cons_self found
  refine ⟨?_, ?_, ?_, ?_⟩
  · intro number member
    exact List.mem_of_mem_erase (followed.remaining number member)
  · intro other member
    rcases List.mem_cons.1 member with rfl | later
    · exact ⟨type, found, gone⟩
    · exact followed.reached other (List.mem_append_right _ later)
  -- The visited number is seen by this step, and every other one by the steps that follow.
  · intro number member seen other otherPlace dependency depends
    by_cases same : number = handle.index
    · rw [same, place] at otherPlace
      obtain rfl := Option.some.inj otherPlace
      exact followed.reached dependency
        (List.mem_append_left _ (List.mem_reverse.2 depends))
    · have kept := (List.mem_erase_of_ne same).2 member
      exact followed.closed number kept seen other otherPlace dependency depends
  · intro number member seen
    by_cases same : number = handle.index
    · exact ⟨type, same ▸ place, first⟩
    · have kept := (List.mem_erase_of_ne same).2 member
      obtain ⟨other, otherPlace, needed⟩ := followed.needed number kept seen
      refine ⟨other, otherPlace, needed.of_needed fun used inStack denotes denoted => ?_⟩
      rcases List.mem_append.1 inStack with depends | later
      · obtain ⟨field, inside, mentioned⟩ :=
          mem_dependencies_iff.1 (List.mem_reverse.1 depends)
        exact .field first inside mentioned denoted
      · exact .direct (List.mem_cons_of_mem _ later) denoted

/-- Following a stack to its end achieves what each of its steps keeps. -/
theorem followed_of_follow {registry : TypeRegistry} {unseen rest : List Nat}
    {pending : List Handle} (distinct : unseen.Nodup)
    (ended : registry.follow unseen pending = .ok rest) :
    registry.Followed unseen pending rest := by
  induction unseen, pending using follow.induct registry with
  | case1 unseen =>
    rw [follow] at ended
    cases ended
    exact followed_nil registry _
  | case2 unseen handle pending unresolved =>
    rw [follow, unresolved] at ended
    cases ended
  | case3 unseen handle pending type found member ih =>
    rw [follow, found] at ended
    simp only [member, ↓reduceIte] at ended
    exact Followed.visit distinct (ih (distinct.erase _) ended) found
  | case4 unseen handle pending type found seen ih =>
    rw [follow, found] at ended
    simp only [seen, ↓reduceIte] at ended
    exact (ih distinct ended).skip found seen

/-! ## The types that are found -/

/-- When the stack is followed to its end, the types whose numbers have been seen are found. -/
theorem needed_of_follow {registry : TypeRegistry} {used : List Handle} {rest : List Nat}
    (ended : registry.follow (List.range registry.size) used.reverse = .ok rest) :
    registry.needed used = .ok (registry.types.filter fun type =>
      ((List.range registry.size).filter fun number => !rest.contains number).contains
        type.index) := by
  rw [needed, closure, ended]
  rfl

/-- Finding the needed types is following the whole stack over all numbers. -/
theorem needed_eq_ok {registry : TypeRegistry} {used : List Handle} {types : List UserType}
    (found : registry.needed used = .ok types) :
    ∃ rest, registry.Followed (List.range registry.size) used.reverse rest ∧
      types = registry.types.filter fun type =>
        ((List.range registry.size).filter fun number => !rest.contains number).contains
          type.index := by
  cases ended : registry.follow (List.range registry.size) used.reverse with
  | error refusal =>
    rw [needed, closure, ended] at found
    cases found
  | ok rest =>
    rw [needed_of_follow ended] at found
    cases found
    exact ⟨rest, followed_of_follow List.nodup_range ended, rfl⟩

/-- Found types stand in declaration order. -/
theorem sublist_of_needed {registry : TypeRegistry} {used : List Handle} {types : List UserType}
    (found : registry.needed used = .ok types) : types.Sublist registry.types := by
  obtain ⟨rest, -, rfl⟩ := needed_eq_ok found
  exact List.filter_sublist

/-- Everything that a stack needs has been seen once the stack has been followed over all
numbers. -/
theorem Followed.seen_of_needs {registry : TypeRegistry} {pending : List Handle}
    {rest : List Nat} (followed : registry.Followed (List.range registry.size) pending rest)
    (laws : registry.WellFormed) {type : UserType} (needed : registry.Needs (· ∈ pending) type) :
    type.index ∉ rest := by
  induction needed with
  | direct isUsed found =>
    obtain ⟨-, -, seen⟩ := followed.reached _ isUsed
    rw [laws.index_eq _ _ (resolve_eq_some_iff.1 found).1]
    exact seen
  | field source inside mentioned found ih =>
    have place := laws.place_of_mem source.mem
    have bound := (List.getElem?_eq_some_iff.1 place).1
    obtain ⟨-, -, seen⟩ := followed.closed _ (List.mem_range.2 bound) ih _ place _
      (mem_dependencies_iff.2 ⟨_, inside, mentioned⟩)
    rw [laws.index_eq _ _ (resolve_eq_some_iff.1 found).1]
    exact seen

/-- The types that are found for some handles are exactly those that the handles need. -/
theorem WellFormed.mem_needed_iff {registry : TypeRegistry} (laws : registry.WellFormed)
    {used : List Handle} {types : List UserType} (found : registry.needed used = .ok types)
    {type : UserType} : type ∈ types ↔ registry.Needs (· ∈ used) type := by
  obtain ⟨rest, followed, rfl⟩ := needed_eq_ok found
  simp only [List.mem_filter, List.mem_range, Bool.not_eq_true', List.contains_eq_mem,
    decide_eq_false_iff_not, decide_eq_true_eq]
  constructor
  · rintro ⟨member, bound, seen⟩
    obtain ⟨other, place, needed⟩ :=
      followed.needed type.index (List.mem_range.2 bound) seen
    rw [laws.place_of_mem member] at place
    obtain rfl := Option.some.inj place
    refine needed.of_needed fun handle inStack denoted resolved => ?_
    exact .direct (List.mem_reverse.1 inStack) resolved
  · intro needed
    have bound := (List.getElem?_eq_some_iff.1 (laws.place_of_mem needed.mem)).1
    have inStack : registry.Needs (· ∈ used.reverse) type := by
      refine needed.of_needed fun handle isUsed denoted resolved => ?_
      exact .direct (List.mem_reverse.2 isUsed) resolved
    exact ⟨needed.mem, bound, followed.seen_of_needs laws inStack⟩

/-! ## Handles that do not resolve -/

open Outcome

/-- In a well-formed registry the fields of a type mention only handles that resolve. -/
theorem WellFormed.resolves_dependency {registry : TypeRegistry} (laws : registry.WellFormed)
    {type : UserType} (member : type ∈ registry.types) {handle : Handle}
    (depends : handle ∈ type.dependencies) : registry.resolves handle = true := by
  obtain ⟨field, inside, mentioned⟩ := mem_dependencies_iff.1 depends
  obtain ⟨dependency, found, -⟩ := laws.earlier type member field inside handle mentioned
  exact Option.isSome_iff_exists.2 ⟨dependency, found⟩

/-- Handles on top of a stack that all resolve are followed, with all they depend on, until the
stack below them is left. -/
theorem WellFormed.follow_append {registry : TypeRegistry} (laws : registry.WellFormed)
    (unseen : List Nat) {pending : List Handle}
    (resolved : ∀ handle ∈ pending, registry.resolves handle = true) (below : List Handle) :
    ∃ left, registry.follow unseen (pending ++ below) = registry.follow left below := by
  induction unseen, pending using follow.induct registry with
  | case1 unseen => exact ⟨unseen, rfl⟩
  | case2 unseen handle pending unresolved =>
    have known := resolved handle List.mem_cons_self
    rw [resolves, unresolved] at known
    cases known
  | case3 unseen handle pending type found member ih =>
    have stack : ∀ other ∈ type.dependencies.reverse ++ pending,
        registry.resolves other = true := by
      intro other inStack
      rcases List.mem_append.1 inStack with depends | later
      · exact laws.resolves_dependency (mem_of_resolve found) (List.mem_reverse.1 depends)
      · exact resolved other (List.mem_cons_of_mem _ later)
    obtain ⟨left, followed⟩ := ih stack
    refine ⟨left, ?_⟩
    rw [List.cons_append, follow, found]
    simp only [member, ↓reduceIte]
    rw [← List.append_assoc]
    exact followed
  | case4 unseen handle pending type found seen ih =>
    obtain ⟨left, followed⟩ := ih fun other later => resolved other (List.mem_cons_of_mem _ later)
    refine ⟨left, ?_⟩
    rw [List.cons_append, follow, found]
    simp only [seen, ↓reduceIte]
    exact followed

/-- A stack is followed up to its first handle that does not resolve. -/
theorem WellFormed.follow_eq_error {registry : TypeRegistry} (laws : registry.WellFormed)
    (unseen : List Nat) {pending : List Handle} {error : SchemaError} :
    registry.follow unseen pending = .error error ↔
      ∃ handle below, IsFirst (registry.resolves · = false) pending handle below ∧
        error = foreign handle := by
  have fails : ∀ handle below,
      IsFirst (registry.resolves · = false) pending handle below →
        registry.follow unseen pending = .error (foreign handle) := by
    rintro handle below ⟨above, rfl, unresolved, resolved⟩
    have known : ∀ other ∈ above, registry.resolves other = true := by
      intro other member
      exact Bool.not_eq_false _ ▸ resolved other member
    have unknown : registry.resolve handle = none := by
      simpa [resolves] using unresolved
    obtain ⟨left, followed⟩ := laws.follow_append unseen known (handle :: below)
    rw [followed, follow, unknown]
  constructor
  · intro failed
    cases found : pending.find? fun handle => !registry.resolves handle with
    | none =>
      have resolved : ∀ handle ∈ pending, registry.resolves handle = true := by
        simpa using found
      obtain ⟨left, followed⟩ := laws.follow_append unseen resolved []
      rw [List.append_nil, failed, follow] at followed
      cases followed
    | some handle =>
      obtain ⟨below, first⟩ := find?_eq_some_iff_isFirst.1 found
      simp only [Bool.not_eq_true'] at first
      have same := fails handle below first
      rw [failed] at same
      cases same
      exact ⟨handle, below, first, rfl⟩
  · rintro ⟨handle, below, first, rfl⟩
    exact fails handle below first

/-- The types that handles need are not found exactly when one of the handles does not resolve,
and the last such handle is reported. -/
theorem WellFormed.needed_eq_error {registry : TypeRegistry} (laws : registry.WellFormed)
    {used : List Handle} {error : SchemaError} :
    registry.needed used = .error error ↔
      ∃ handle before, IsFirst (registry.resolves · = false) used.reverse handle before ∧
        error = foreign handle := by
  rw [← laws.follow_eq_error (List.range registry.size)]
  cases ended : registry.follow (List.range registry.size) used.reverse with
  | error other =>
    rw [needed, closure, ended]
    constructor
    · intro failed
      cases failed
      rfl
    · intro failed
      cases failed
      rfl
  | ok rest =>
    rw [needed_of_follow ended]
    constructor
    · intro failed
      cases failed
    · intro failed
      cases failed
end CqlSchema.TypeRegistry
