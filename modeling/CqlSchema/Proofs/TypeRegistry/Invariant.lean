import CqlSchema.TypeRegistry
import CqlSchema.Proofs.DataType.Mentions
import CqlSchema.Proofs.Entries
/-!
# What every registry of types keeps

A registry that is built by declarations numbers its types by position, keeps their names and
the names of their fields apart, and has every field mention only types with a smaller number.
Each declaration, carried out or refused, keeps these laws. They make look-up by name and
resolution of handles inverse to each other.
-/

namespace CqlSchema.TypeRegistry

/-- Laws of a registry that is built by declarations. -/
structure WellFormed (registry : TypeRegistry) : Prop where
  /-- The number of a type is its position. -/
  index_eq : ∀ (position : Nat) (type : UserType), registry.types[position]? = some type →
    type.index = position
  /-- Every type is named by an identifier. -/
  identifiers : ∀ type ∈ registry.types, isIdentifier type.name = true
  /-- No two names of types fold to the same text. -/
  distinct : (registry.types.map fun type => Text.fold type.name).Nodup
  /-- The fields of every type are well named. -/
  wellNamed : ∀ type ∈ registry.types, type.fields.WellNamed
  /-- Every type has a field. -/
  nonempty : ∀ type ∈ registry.types, type.fields ≠ []
  /-- A field mentions only types with a smaller number than its own. -/
  earlier : ∀ type ∈ registry.types, ∀ field ∈ type.fields, ∀ handle,
    field.2.Mentions handle →
      ∃ dependency, registry.resolve handle = some dependency ∧ dependency.index < type.index

/-! ## Resolution and look-up -/

/-- A handle denotes the type at its position if that type has its name. -/
theorem resolve_eq_some_iff {registry : TypeRegistry} {handle : Handle} {type : UserType} :
    registry.resolve handle = some type ↔
      registry.types[handle.index]? = some type ∧ type.name = handle.name := by
  rw [resolve, get?, Option.filter_eq_some_iff, beq_iff_eq]

/-- A resolved type is one of the registry. -/
theorem mem_of_resolve {registry : TypeRegistry} {handle : Handle} {type : UserType}
    (found : registry.resolve handle = some type) : type ∈ registry.types :=
  List.mem_of_getElem? (resolve_eq_some_iff.1 found).1

/-- What resolves in a registry resolves in the same way once types follow. -/
theorem resolve_append {registry : TypeRegistry} {handle : Handle} {type : UserType}
    (found : registry.resolve handle = some type) (later : List UserType) :
    TypeRegistry.resolve ⟨registry.types ++ later⟩ handle = some type := by
  rw [resolve_eq_some_iff] at found ⊢
  refine ⟨?_, found.2⟩
  rw [List.getElem?_append_left (List.getElem?_eq_some_iff.1 found.1).1]
  exact found.1

/-- In a well-formed registry names tell types apart, also when case is ignored. -/
theorem WellFormed.eq_of_fold_eq {registry : TypeRegistry} (laws : registry.WellFormed)
    {first second : UserType} (firstMember : first ∈ registry.types)
    (secondMember : second ∈ registry.types)
    (same : Text.fold first.name = Text.fold second.name) : first = second :=
  List.inj_on_of_nodup_map laws.distinct firstMember secondMember same

/-- A resolved handle is the handle of its type. -/
theorem WellFormed.handle_of_resolve {registry : TypeRegistry} (laws : registry.WellFormed)
    {handle : Handle} {type : UserType} (found : registry.resolve handle = some type) :
    type.handle = handle := by
  obtain ⟨place, named⟩ := resolve_eq_some_iff.1 found
  rw [UserType.handle, laws.index_eq _ _ place, named]

/-- Every type of a well-formed registry stands at the position that is its number. -/
theorem WellFormed.place_of_mem {registry : TypeRegistry} (laws : registry.WellFormed)
    {type : UserType} (member : type ∈ registry.types) :
    registry.types[type.index]? = some type := by
  obtain ⟨position, place⟩ := List.mem_iff_getElem?.1 member
  rw [laws.index_eq _ _ place]
  exact place

/-- The numbers of the types of a well-formed registry increase. -/
theorem WellFormed.sorted {registry : TypeRegistry} (laws : registry.WellFormed) :
    registry.types.Pairwise fun first second => first.index < second.index := by
  rw [List.pairwise_iff_getElem]
  intro low high lowBound highBound less
  rw [laws.index_eq low _ (List.getElem?_eq_getElem lowBound),
    laws.index_eq high _ (List.getElem?_eq_getElem highBound)]
  exact less

/-- The handle of every type of a well-formed registry resolves to that type. -/
theorem WellFormed.resolve_handle {registry : TypeRegistry} (laws : registry.WellFormed)
    {type : UserType} (member : type ∈ registry.types) :
    registry.resolve type.handle = some type :=
  resolve_eq_some_iff.2 ⟨laws.place_of_mem member, rfl⟩

/-- Look-up finds a type with exactly the given name. -/
theorem exists_of_lookup {registry : TypeRegistry} {name : String} {handle : Handle}
    (found : registry.lookup name = some handle) :
    ∃ type ∈ registry.types, type.name = name ∧ type.handle = handle := by
  obtain ⟨type, first, rfl⟩ := Option.map_eq_some_iff.1 found
  exact ⟨type, List.mem_of_find?_eq_some first, beq_iff_eq.1 (List.find?_some first :), rfl⟩

/-- A found handle carries the name that was looked up. -/
theorem name_of_lookup {registry : TypeRegistry} {name : String} {handle : Handle}
    (found : registry.lookup name = some handle) : handle.name = name := by
  obtain ⟨type, _, rfl, rfl⟩ := exists_of_lookup found
  rfl

/-- A found handle resolves. -/
theorem WellFormed.resolves_of_lookup {registry : TypeRegistry} (laws : registry.WellFormed)
    {name : String} {handle : Handle} (found : registry.lookup name = some handle) :
    ∃ type, registry.resolve handle = some type := by
  obtain ⟨type, member, -, rfl⟩ := exists_of_lookup found
  exact ⟨type, laws.resolve_handle member⟩

/-- Looking up the name of a handle that resolves gives that handle back. -/
theorem WellFormed.lookup_of_resolve {registry : TypeRegistry} (laws : registry.WellFormed)
    {handle : Handle} {type : UserType} (found : registry.resolve handle = some type) :
    registry.lookup handle.name = some handle := by
  have member := mem_of_resolve found
  have named := (resolve_eq_some_iff.1 found).2
  cases first : registry.types.find? fun other => other.name == handle.name with
  | none =>
    have absent := List.find?_eq_none.1 first type member
    simp [named] at absent
  | some other =>
    have sameName : other.name = handle.name := beq_iff_eq.1 (List.find?_some first :)
    have same : other = type :=
      laws.eq_of_fold_eq (List.mem_of_find?_eq_some first) member
        (by rw [sameName, named])
    rw [lookup, first, Option.map_some, same, laws.handle_of_resolve found]

/-! ## Declarations -/

/-- Demands on a declaration. -/
structure Declarable (registry : TypeRegistry) (name : String)
    (fields : List (String × DataType)) : Prop where
  /-- The name is an identifier. -/
  identifier : isIdentifier name = true
  /-- No declared name folds to the same text. -/
  new : ∀ type ∈ registry.types, Text.fold type.name ≠ Text.fold name
  /-- The fields are well named. -/
  wellNamed : Entries.WellNamed fields
  /-- There is a field. -/
  nonempty : fields ≠ []
  /-- Every mentioned handle resolves. -/
  resolved : ∀ field ∈ fields, ∀ handle, field.2.Mentions handle →
    ∃ dependency, registry.resolve handle = some dependency

/-- The checks of a field admit only new identifiers as names. -/
theorem fieldFault_checksNames (registry : TypeRegistry) :
    Entries.ChecksNames registry.fieldFault? := by
  intro collected field clean
  unfold fieldFault? at clean
  split at clean
  · cases clean
  · rename_i identifier
    split at clean
    · cases clean
    · split at clean
      · cases clean
      · rename_i fresh
        refine ⟨by simpa using identifier, fun other member same => fresh ?_⟩
        exact List.any_eq_true.2 ⟨other, member, Text.sameFolded_iff.2 same⟩

/-- A field without a fault mentions only handles that resolve. -/
theorem resolved_of_fieldFault {registry : TypeRegistry} {collected : Entries DataType}
    {field : String × DataType} (clean : registry.fieldFault? collected field = none)
    {handle : Handle} (mentioned : field.2.Mentions handle) :
    ∃ dependency, registry.resolve handle = some dependency := by
  unfold fieldFault? at clean
  split at clean
  · cases clean
  · split at clean
    · cases clean
    · rename_i known
      rw [Bool.not_eq_true', Bool.not_eq_false, List.all_eq_true] at known
      exact Option.isSome_iff_exists.1 (known handle (DataType.mem_userTypes_iff.2 mentioned))

/-- Fields are accepted only as they are written, and only for a declarable type. -/
theorem acceptedFields_eq_ok {registry : TypeRegistry} {name : String}
    {fields : List (String × DataType)} {collected : Entries DataType}
    (accepted : registry.acceptedFields name fields = .ok collected) :
    collected = fields ∧ registry.Declarable name fields := by
  unfold acceptedFields at accepted
  split at accepted
  · cases accepted
  · rename_i identifier
    split at accepted
    · cases accepted
    · rename_i fresh
      split at accepted
      · cases accepted
      · rename_i whole passed
        split at accepted
        · cases accepted
        · rename_i some
          cases accepted
          obtain ⟨rfl, wellNamed, clean⟩ :=
            Entries.collect_wellNamed (fieldFault_checksNames registry) passed
          refine ⟨rfl, by simpa using identifier, fun type member same => fresh ?_, wellNamed,
            by simpa using some, fun field member handle mentioned => ?_⟩
          · exact List.any_eq_true.2 ⟨type, member, Text.sameFolded_iff.2 same⟩
          · obtain ⟨before, after, shape⟩ := List.append_of_mem member
            exact resolved_of_fieldFault (clean before field after shape) mentioned

/-- A declaration that is carried out adds exactly the declared type at the end. -/
theorem declare_eq_ok {registry after : TypeRegistry} {name : String}
    {fields : List (String × DataType)} {handle : Handle}
    (declared : registry.declare name fields = (after, .ok handle)) :
    after.types = registry.types ++ [⟨registry.size, name, fields⟩] ∧
      handle = ⟨registry.size, name⟩ ∧ registry.Declarable name fields := by
  unfold declare at declared
  split at declared
  · cases declared
  · rename_i collected accepted
    obtain ⟨rfl, demands⟩ := acceptedFields_eq_ok accepted
    cases declared
    exact ⟨rfl, rfl, demands⟩

/-- A named field whose handles resolve has no fault beside fields with other names. -/
theorem fieldFault?_eq_none {registry : TypeRegistry} {collected : Entries DataType}
    {field : String × DataType} (identifier : isIdentifier field.1 = true)
    (resolved : ∀ handle, field.2.Mentions handle →
      ∃ dependency, registry.resolve handle = some dependency)
    (new : ∀ other ∈ collected, Text.fold other.1 ≠ Text.fold field.1) :
    registry.fieldFault? collected field = none := by
  have known : field.2.userTypes.all registry.resolves = true := by
    refine List.all_eq_true.2 fun handle member => Option.isSome_iff_exists.2 ?_
    exact resolved handle (DataType.mem_userTypes_iff.1 member)
  have fresh : ¬ (collected.any fun other => Text.sameFolded other.1 field.1) = true := by
    rw [List.any_eq_true]
    rintro ⟨other, member, same⟩
    exact new other member (Text.sameFolded_iff.1 same)
  simp only [fieldFault?, identifier, known, fresh, Bool.not_true, Bool.false_eq_true,
    ↓reduceIte]

/-- A declarable type is declared. -/
theorem Declarable.declare_eq {registry : TypeRegistry} {name : String}
    {fields : List (String × DataType)} (demands : registry.Declarable name fields) :
    registry.declare name fields =
      (⟨registry.types ++ [⟨registry.size, name, fields⟩]⟩, .ok ⟨registry.size, name⟩) := by
  have fresh : ¬ registry.declares name = true := by
    rw [declares, List.any_eq_true]
    rintro ⟨type, member, same⟩
    exact demands.new type member (Text.sameFolded_iff.1 same)
  have collected : Entries.collect registry.fieldFault? [] fields = .ok fields := by
    refine Entries.collect_of_clean (fieldFault_checksNames registry) ?_
    intro before field after shape
    have member : field ∈ fields := shape ▸ List.mem_append_right _ List.mem_cons_self
    exact fieldFault?_eq_none (demands.wellNamed.identifiers field member)
      (demands.resolved field member) (demands.wellNamed.ne_of_earlier shape)
  have some : ¬ fields.isEmpty = true := by simpa using demands.nonempty
  have accepted : registry.acceptedFields name fields = .ok fields := by
    simp only [acceptedFields, demands.identifier, fresh, collected, some, Bool.not_true,
      Bool.false_eq_true, ↓reduceIte]
  rw [declare, accepted]
  rfl

/-- A declaration that is refused changes nothing. -/
theorem declare_eq_error {registry after : TypeRegistry} {name : String}
    {fields : List (String × DataType)} {refusal : SchemaError}
    (refused : registry.declare name fields = (after, .error refusal)) : after = registry := by
  unfold declare at refused
  split at refused
  · cases refused
    rfl
  · cases refused

/-! ## Keeping the laws -/

/-- The registry without types keeps all laws. -/
theorem wellFormed_empty : empty.WellFormed where
  index_eq := by simp [empty]
  identifiers := by simp [empty]
  distinct := by simp [empty]
  wellNamed := by simp [empty]
  nonempty := by simp [empty]
  earlier := by simp [empty]

/-- A declarable type at the end keeps all laws. -/
theorem WellFormed.append {registry : TypeRegistry} (laws : registry.WellFormed)
    {name : String} {fields : List (String × DataType)}
    (demands : registry.Declarable name fields) :
    WellFormed ⟨registry.types ++ [⟨registry.size, name, fields⟩]⟩ where
  index_eq position type place := by
    rcases Nat.lt_or_ge position registry.types.length with inside | outside
    · rw [List.getElem?_append_left inside] at place
      exact laws.index_eq position type place
    · rw [List.getElem?_append_right outside, List.getElem?_singleton] at place
      split at place
      · rename_i atEnd
        cases place
        show registry.types.length = position
        omega
      · cases place
  identifiers type member := by
    rcases List.mem_append.1 member with old | new
    · exact laws.identifiers type old
    · obtain rfl := List.mem_singleton.1 new
      exact demands.identifier
  distinct := Entries.nodup_map_concat laws.distinct demands.new
  wellNamed type member := by
    rcases List.mem_append.1 member with old | new
    · exact laws.wellNamed type old
    · obtain rfl := List.mem_singleton.1 new
      exact demands.wellNamed
  nonempty type member := by
    rcases List.mem_append.1 member with old | new
    · exact laws.nonempty type old
    · obtain rfl := List.mem_singleton.1 new
      exact demands.nonempty
  earlier type member field inside handle mentioned := by
    rcases List.mem_append.1 member with old | new
    · obtain ⟨dependency, found, smaller⟩ :=
        laws.earlier type old field inside handle mentioned
      exact ⟨dependency, resolve_append found _, smaller⟩
    · obtain rfl := List.mem_singleton.1 new
      obtain ⟨dependency, found⟩ := demands.resolved field inside handle mentioned
      refine ⟨dependency, resolve_append found _, ?_⟩
      rw [laws.index_eq _ _ (resolve_eq_some_iff.1 found).1]
      exact index_lt_of_resolve found

/-- Every declaration, carried out or refused, keeps the laws. -/
theorem WellFormed.declare {registry : TypeRegistry} (laws : registry.WellFormed)
    (name : String) (fields : List (String × DataType)) :
    (registry.declare name fields).1.WellFormed := by
  rcases shape : registry.declare name fields with ⟨after, outcome⟩
  cases outcome with
  | error refusal =>
    rw [declare_eq_error shape]
    exact laws
  | ok handle =>
    obtain ⟨extended, -, demands⟩ := declare_eq_ok shape
    obtain rfl : after = ⟨registry.types ++ [⟨registry.size, name, fields⟩]⟩ := by
      rw [← extended]
    exact laws.append demands

/-- Registries that declarations build from the empty one. -/
inductive Reachable : TypeRegistry → Prop where
  | empty : Reachable TypeRegistry.empty
  | declare {registry : TypeRegistry} (name : String) (fields : List (String × DataType)) :
      Reachable registry → Reachable (registry.declare name fields).1

/-- Every reachable registry is well formed. -/
theorem Reachable.wellFormed {registry : TypeRegistry} (reachable : registry.Reachable) :
    registry.WellFormed := by
  induction reachable with
  | empty => exact wellFormed_empty
  | declare name fields _ laws => exact laws.declare name fields

end CqlSchema.TypeRegistry
