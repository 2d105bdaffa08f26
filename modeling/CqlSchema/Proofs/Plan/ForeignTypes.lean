import CqlSchema.Proofs.Plan.Creations
import CqlSchema.Proofs.Plan.Growth
import CqlSchema.Proofs.Plan.Order
import CqlSchema.Proofs.Statement.Recovery
/-!
# Handles in the registry of another catalog

A handle carries the number and the name of its type and nothing of its fields. In the registry of
another catalog it is refused unless a type of that name has that number there, but such a type may
have other fields: then it is mistaken for the type that the handle denotes. Where no type that the
tables of a catalog require is mistaken, the chains of fields run alike in both registries, so the
same types are needed and the plan is the one that the catalog has itself.
-/

namespace CqlSchema

open Outcome

namespace TypeRegistry

variable {own other : TypeRegistry}

/-- A registry mistakes a type of another one when its type with the same number and the same name
has other fields. -/
def Mistakes (registry : TypeRegistry) (type : UserType) : Prop :=
  ∃ lookalike, registry.resolve type.handle = some lookalike ∧ lookalike.fields ≠ type.fields

/-- What a handle denotes in two registries has the same number and the same name in both. -/
theorem WellFormed.handle_eq_of_resolve (laws : own.WellFormed) (otherLaws : other.WellFormed)
    {handle : Handle} {type found : UserType} (denoted : own.resolve handle = some type)
    (resolved : other.resolve handle = some found) : found.handle = type.handle := by
  rw [laws.handle_of_resolve denoted, otherLaws.handle_of_resolve resolved]

/-- A type that is not mistaken is the only one that its handle can denote in the registry. -/
theorem WellFormed.eq_of_not_mistakes (laws : own.WellFormed) (otherLaws : other.WellFormed)
    {handle : Handle} {type found : UserType} (denoted : own.resolve handle = some type)
    (resolved : other.resolve handle = some found) (unmistaken : ¬ other.Mistakes type) :
    found = type := by
  have sameHandle := laws.handle_eq_of_resolve otherLaws denoted resolved
  obtain ⟨sameIndex, sameName⟩ := Handle.mk.inj sameHandle
  have sameFields : found.fields = type.fields := by
    by_contra different
    rw [← laws.handle_of_resolve denoted] at resolved
    exact unmistaken ⟨found, resolved, different⟩
  obtain ⟨index, name, fields⟩ := found
  obtain ⟨_, _, _⟩ := type
  cases sameIndex
  cases sameName
  cases sameFields
  rfl

/-! ## Needs in both registries -/

section Needs

variable {used : Handle → Prop}

/-- Types that are needed and not mistaken are needed in the other registry too. -/
theorem WellFormed.needs_other (laws : own.WellFormed) (otherLaws : other.WellFormed)
    (known : ∀ handle, used handle → ∃ found, other.resolve handle = some found)
    (unmistaken : ∀ type, own.Needs used type → ¬ other.Mistakes type) {type : UserType}
    (needed : own.Needs used type) : other.Needs used type := by
  induction needed with
  | direct isUsed denoted =>
    obtain ⟨found, resolved⟩ := known _ isUsed
    obtain rfl := laws.eq_of_not_mistakes otherLaws denoted resolved
      (unmistaken _ (.direct isUsed denoted))
    exact .direct isUsed resolved
  | field source inside mentioned denoted ih =>
    -- The type with the field stands in the other registry, where its fields resolve as well.
    obtain ⟨found, resolved, -⟩ := otherLaws.earlier _ ih.mem _ inside _ mentioned
    obtain rfl := laws.eq_of_not_mistakes otherLaws denoted resolved
      (unmistaken _ (.field source inside mentioned denoted))
    exact .field ih inside mentioned resolved

/-- What the other registry needs for handles of types that are not mistaken is nothing else. -/
theorem WellFormed.needs_own (laws : own.WellFormed) (otherLaws : other.WellFormed)
    (issued : ∀ handle, used handle → ∃ type, own.resolve handle = some type)
    (unmistaken : ∀ type, own.Needs used type → ¬ other.Mistakes type) {found : UserType}
    (needed : other.Needs used found) : own.Needs used found := by
  induction needed with
  | direct isUsed resolved =>
    obtain ⟨type, denoted⟩ := issued _ isUsed
    have direct : own.Needs used type := .direct isUsed denoted
    rw [laws.eq_of_not_mistakes otherLaws denoted resolved (unmistaken _ direct)]
    exact direct
  | field _ inside mentioned resolved ih =>
    obtain ⟨type, denoted, -⟩ := laws.earlier _ ih.mem _ inside _ mentioned
    have chained : own.Needs used type := .field ih inside mentioned denoted
    rw [laws.eq_of_not_mistakes otherLaws denoted resolved (unmistaken _ chained)]
    exact chained

end Needs

/-- For handles of types that are not mistaken, both registries find the same types. -/
theorem WellFormed.needed_other_eq (laws : own.WellFormed) (otherLaws : other.WellFormed)
    {used : List Handle} (issued : ∀ handle ∈ used, ∃ type, own.resolve handle = some type)
    (known : ∀ handle ∈ used, ∃ found, other.resolve handle = some found)
    (unmistaken : ∀ type, own.Needs (· ∈ used) type → ¬ other.Mistakes type) :
    other.needed used = own.needed used := by
  obtain ⟨types, denoted⟩ := laws.exists_needed issued
  obtain ⟨founds, resolved⟩ := otherLaws.exists_needed known
  have sorted := laws.sorted.sublist (sublist_of_needed denoted)
  have otherSorted := otherLaws.sorted.sublist (sublist_of_needed resolved)
  have distinct : ∀ first second : UserType, first.index < second.index → first ≠ second := by
    rintro first _ less rfl
    exact absurd less (Nat.lt_irrefl _)
  have sameMembers : founds.Perm types := by
    refine (List.perm_ext_iff_of_nodup (otherSorted.imp (distinct _ _))
      (sorted.imp (distinct _ _))).2 fun type => ?_
    rw [laws.mem_needed_iff denoted, otherLaws.mem_needed_iff resolved]
    exact ⟨laws.needs_own otherLaws issued unmistaken,
      laws.needs_other otherLaws known unmistaken⟩
  -- Two lists with the same members in increasing order are one list.
  have same := sameMembers.eq_of_pairwise
    (fun first second _ _ less more => absurd more (Nat.lt_asymm less)) otherSorted sorted
  rw [denoted, resolved, same]

end TypeRegistry

/-! ## Definitions of what a handle denotes -/

namespace UserType

/-- The definition of a type is its name and what its fields show. -/
theorem definition_eq_of_shown (type : UserType) : type.definition = type.name ++ "(" ++
    ", ".intercalate ((type.fields.map fieldShown).map fun shown => shown.1 ++ " " ++ shown.2) ++
      ")" := by
  rw [List.map_map]
  rfl

/-- Legible types of one name have the same definition exactly when their fields show the same. -/
theorem Legible.definition_eq_iff {type found : UserType} (legible : type.Legible)
    (foundLegible : found.Legible) (sameName : found.name = type.name) :
    found.definition = type.definition ↔
      found.fields.map fieldShown = type.fields.map fieldShown := by
  constructor
  · intro sameDefinition
    rw [definition, definition, sameName] at sameDefinition
    have letters := congrArg String.toList sameDefinition
    simp only [String.toList_append, List.append_cancel_left_eq, List.append_cancel_right_eq,
      String.toList_inj] at letters
    have sameBody : (Statement.createType "" found).body = (Statement.createType "" type).body :=
      congrArg (· ++ ");") letters
    exact foundLegible.shown_eq legible sameBody
  · intro sameFields
    rw [definition_eq_of_shown, definition_eq_of_shown, sameName, sameFields]

end UserType

/-- What a plan over the types of another catalog creates for the tables of a catalog. -/
structure Plan.CreatesFrom (plan : Plan) (keyspace : String) (own other : Catalog)
    (created : List UserType) : Prop where
  /-- The statements for types are those of the created types, in order. -/
  types_eq : plan.types = created.map fun type => (Statement.createType keyspace type).text
  /-- The statements for tables are those of all tables, in declaration order. -/
  tables_eq : plan.tables = own.tables.tables.map fun table =>
    (Statement.createTable keyspace table).text
  /-- A handle of the tables denotes a type in both catalogs. The one in the other catalog is the
  only created type of its name, and it is the own one unless that is mistaken. -/
  handles : ∀ handle, own.Uses handle → ∃ type found, own.types.resolve handle = some type ∧
    other.types.resolve handle = some found ∧ found ∈ created ∧
    (∀ namesake ∈ created, namesake.name = type.name → namesake = found) ∧
    (¬ other.types.Mistakes type → found = type)
  /-- Where no required type is mistaken, the plan is the own one, and it creates the required
  types as they were declared. -/
  unmistaken : (∀ type, own.Requires type → ¬ other.types.Mistakes type) →
    own.plan keyspace = .ok plan ∧ ∀ type, type ∈ created ↔ own.Requires type

namespace Catalog

variable {own other : Catalog}

/-- A handle of the tables of a well-formed catalog denotes one of its types. -/
theorem WellFormed.exists_of_uses (laws : own.WellFormed) {handle : Handle}
    (isUsed : own.Uses handle) : ∃ type, own.types.resolve handle = some type := by
  obtain ⟨table, member, entry, inside, mentioned⟩ := isUsed
  exact laws.resolved table member entry inside handle mentioned

/-- Where no type that the tables require is mistaken, the types of the other catalog give the
tables the plan that they have in their own. -/
theorem WellFormed.ofTables_other_eq (laws : own.WellFormed) (otherLaws : other.WellFormed)
    (known : ∀ handle, own.Uses handle → ∃ found, other.types.resolve handle = some found)
    (unmistaken : ∀ type, own.Requires type → ¬ other.types.Mistakes type) (keyspace : String) :
    Plan.ofTables keyspace other.types own.tables.tables = own.plan keyspace := by
  have needed : other.types.needed (own.tables.tables.flatMap Table.userTypes) =
      own.types.needed (own.tables.tables.flatMap Table.userTypes) := by
    refine laws.types.needed_other_eq otherLaws.types ?_ ?_ ?_
    · intro handle listed
      exact laws.exists_of_uses (mem_userTypes_iff.1 listed)
    · intro handle listed
      exact known handle (mem_userTypes_iff.1 listed)
    · intro type needed
      simp only [mem_userTypes_iff] at needed
      exact unmistaken type needed
  rw [Catalog.plan, Plan.ofTables_congr needed]

/-- A plan over the types of another catalog creates what these make of the handles. -/
theorem WellFormed.createsFrom (laws : own.WellFormed) (otherLaws : other.WellFormed)
    {keyspace : String} {plan : Plan}
    (planned : Plan.ofTables keyspace other.types own.tables.tables = .ok plan) :
    ∃ created, plan.CreatesFrom keyspace own other created := by
  obtain ⟨-, -, resolved⟩ :=
    not_refused_iff.1 ((Plan.exists_ofTables_iff otherLaws.types).1 ⟨plan, planned⟩)
  have known : ∀ handle, own.Uses handle → ∃ found, other.types.resolve handle = some found := by
    rintro handle ⟨table, member, entry, inside, mentioned⟩
    exact resolved table member entry inside handle mentioned
  obtain ⟨-, -, created, needed, rfl⟩ := Plan.ofTables_eq_ok.1 planned
  have declared := TypeRegistry.sublist_of_needed needed
  have members : ∀ found, found ∈ created ↔ other.types.Needs own.Uses found := by
    intro found
    rw [otherLaws.types.mem_needed_iff needed]
    simp only [mem_userTypes_iff]
  refine ⟨created, ?_, ?_, ?_, ?_⟩
  · rfl
  · rfl
  · intro handle isUsed
    obtain ⟨type, denoted⟩ := laws.exists_of_uses isUsed
    obtain ⟨found, resolved⟩ := known handle isUsed
    have sameHandle := laws.types.handle_eq_of_resolve otherLaws.types denoted resolved
    refine ⟨type, found, denoted, resolved, (members found).2 (.direct isUsed resolved), ?_,
      laws.types.eq_of_not_mistakes otherLaws.types denoted resolved⟩
    intro namesake member sameName
    refine otherLaws.types.eq_of_fold_eq (declared.subset member)
      (TypeRegistry.mem_of_resolve resolved) (congrArg Text.fold ?_)
    rw [sameName]
    exact (congrArg Handle.name sameHandle).symm
  · intro unmistaken
    have samePlan := laws.ofTables_other_eq otherLaws known unmistaken keyspace
    refine ⟨samePlan ▸ planned, fun type => ?_⟩
    rw [members]
    exact ⟨laws.types.needs_own otherLaws.types (fun _ => laws.exists_of_uses) unmistaken,
      laws.types.needs_other otherLaws.types known unmistaken⟩

/-- A handle of a reachable catalog that resolves among the types of another one denotes a type of
the same number and name there, and the same type unless it is mistaken. A plan over the types of
the other catalog creates what these make of the handles: the types of the catalog itself where
none that its tables require is mistaken. A handle that does not resolve is reported, the last one
first. -/
theorem plan_over_other_types (ownReachable : own.Reachable) (otherReachable : other.Reachable) :
    (∀ handle type found, own.types.resolve handle = some type →
      other.types.resolve handle = some found →
        found.index = type.index ∧ found.name = type.name ∧
        (found.definition = type.definition ↔
          found.fields.map UserType.fieldShown = type.fields.map UserType.fieldShown) ∧
        (¬ other.types.Mistakes type → found = type)) ∧
    (∀ keyspace plan, Plan.ofTables keyspace other.types own.tables.tables = .ok plan →
      ∃ created, plan.CreatesFrom keyspace own other created) ∧
    ∀ keyspace, isIdentifier keyspace = true →
      (∀ table ∈ own.tables.tables, table.fault? = none) →
      ∀ before handle after,
        own.tables.tables.flatMap Table.userTypes = before ++ handle :: after →
        other.types.resolve handle = none →
        (∀ later ∈ after, ∃ type, other.types.resolve later = some type) →
          Plan.ofTables keyspace other.types own.tables.tables =
            .error (.invalidType handle.name .undeclared) := by
  have laws := ownReachable.wellFormed
  have otherLaws := otherReachable.wellFormed
  refine ⟨?_, fun _ _ => laws.createsFrom otherLaws, ?_⟩
  · intro handle type found denoted resolved
    have sameHandle := laws.types.handle_eq_of_resolve otherLaws.types denoted resolved
    obtain ⟨sameIndex, sameName⟩ := Handle.mk.inj sameHandle
    have legible := laws.legible_type (TypeRegistry.mem_of_resolve denoted)
    have foundLegible := otherLaws.legible_type (TypeRegistry.mem_of_resolve resolved)
    exact ⟨sameIndex, sameName, legible.definition_eq_iff foundLegible sameName,
      laws.types.eq_of_not_mistakes otherLaws.types denoted resolved⟩
  · intro keyspace identifier clean before handle after split unresolved known
    have failed := otherLaws.types.needed_of_unresolved before unresolved known
    obtain ⟨last, above, first, same⟩ := otherLaws.types.needed_eq_error.1 failed
    rw [← split] at first
    rw [← TypeRegistry.foreign, same]
    refine (Plan.ofTables_eq_error otherLaws.types).2 (.handle identifier ?_ first)
    intro table member
    exact Table.fault?_eq_none_iff.1 (clean table member)

/-- A type that mentions another one keeps its body over the types of a catalog that has both among
others, and is refused over the types of one that has neither. -/
theorem plan_over_shared_types :
    let point : Call := .declareType "Point" [("x", .scalar false .int)]
    let path : Call := .declareType "Path" [("ends", .list true (.user false ⟨0, "Point"⟩))]
    let own := empty.performAll [point, path,
      .declareTable ⟨"t", none, [("p", .partition (.scalar false .int)),
        ("q", .regular (.user false ⟨1, "Path"⟩))]⟩]
    let other := empty.performAll [point, path, .declareType "Spare" [("y", .scalar false .text)]]
    let stranger := empty.performAll [.declareType "Spare" [("y", .scalar false .text)]]
    ∃ plan created, Plan.ofTables "ks" other.types own.tables.tables = .ok plan ∧
      plan.CreatesFrom "ks" own other created ∧ own.plan "ks" = .ok plan ∧
      (∀ type found, own.types.resolve ⟨1, "Path"⟩ = some type →
        other.types.resolve ⟨1, "Path"⟩ = some found → found.name = type.name) ∧
      Plan.ofTables "ks" stranger.types own.tables.tables =
        .error (.invalidType "Path" .undeclared) := by
  intro point path own other stranger
  have ownReachable : own.Reachable := ⟨_, rfl⟩
  have otherReachable : other.Reachable := ⟨_, rfl⟩
  have strangerReachable : stranger.Reachable := ⟨_, rfl⟩
  have identifier : isIdentifier "ks" = true := by decide
  have clean : ∀ table ∈ own.tables.tables, table.fault? = none := by decide
  have used : own.tables.tables.flatMap Table.userTypes = [⟨1, "Path"⟩] := by decide
  obtain ⟨handles, plans, -⟩ := plan_over_other_types ownReachable otherReachable
  obtain ⟨-, -, refused⟩ := plan_over_other_types ownReachable strangerReachable
  have shared : ∀ type ∈ own.types.types, other.types.resolve type.handle = some type := by decide
  have unmistaken : ∀ type, own.Requires type → ¬ other.types.Mistakes type := by
    rintro type required ⟨lookalike, resolved, different⟩
    rw [shared type required.mem] at resolved
    cases resolved
    exact different rfl
  have known : ∀ handle, own.Uses handle → ∃ found, other.types.resolve handle = some found := by
    intro handle isUsed
    obtain ⟨type, denoted⟩ := ownReachable.wellFormed.exists_of_uses isUsed
    have declared := shared type (TypeRegistry.mem_of_resolve denoted)
    rw [ownReachable.wellFormed.types.handle_of_resolve denoted] at declared
    exact ⟨type, declared⟩
  obtain ⟨plan, planned⟩ := ownReachable.wellFormed.exists_plan identifier clean
  rw [← ownReachable.wellFormed.ofTables_other_eq otherReachable.wellFormed known unmistaken "ks"]
    at planned
  obtain ⟨created, creates⟩ := plans "ks" plan planned
  refine ⟨plan, created, planned, creates, (creates.unmistaken unmistaken).1, ?_, ?_⟩
  · intro type found denoted resolved
    exact (handles _ _ _ denoted resolved).2.1
  · exact refused "ks" identifier clean [] _ [] used (by decide) (List.forall_mem_nil _)

/-- Two catalogs that give the same number and the same name to types with other fields: the plan
over the types of the second one creates the second type for a table of the first one. -/
theorem plan_creates_lookalike :
    let own := empty.performAll [.declareType "X" [("x", .scalar false .int)],
      .declareTable ⟨"t", none, [("p", .partition (.scalar false .int)),
        ("v", .regular (.user false ⟨0, "X"⟩))]⟩]
    let other := empty.performAll [.declareType "X" [("y", .scalar false .text)]]
    let type : UserType := ⟨0, "X", [("x", .scalar false .int)]⟩
    let found : UserType := ⟨0, "X", [("y", .scalar false .text)]⟩
    own.Reachable ∧ other.Reachable ∧ own.Uses ⟨0, "X"⟩ ∧
      own.types.resolve ⟨0, "X"⟩ = some type ∧ other.types.resolve ⟨0, "X"⟩ = some found ∧
      found.definition ≠ type.definition ∧
      ∃ plan, Plan.ofTables "ks" other.types own.tables.tables = .ok plan ∧
        plan.types = ["CREATE TYPE IF NOT EXISTS ks.X(y text);"] ∧
        (Statement.createType "ks" type).text = "CREATE TYPE IF NOT EXISTS ks.X(x int);" := by
  intro own other type found
  have otherReachable : other.Reachable := ⟨_, rfl⟩
  have used : own.tables.tables.flatMap Table.userTypes = [found.handle] := by decide
  have resolved : other.types.resolve found.handle = some found := by decide
  have needed : other.types.needed (own.tables.tables.flatMap Table.userTypes) = .ok [found] := by
    rw [used]
    exact otherReachable.wellFormed.types.needed_of_plain resolved (by decide)
  have planned := Plan.ofTables_eq_ok.2
    ⟨(by decide : isIdentifier "ks" = true), (by decide : ∀ table ∈ own.tables.tables,
      table.fault? = none), _, needed, rfl⟩
  have isUsed : own.Uses found.handle := mem_userTypes_iff.1 (used ▸ List.mem_singleton_self _)
  exact ⟨⟨_, rfl⟩, otherReachable, isUsed, by decide, resolved, by decide, _, planned, by decide,
    by decide⟩

end Catalog

end CqlSchema
