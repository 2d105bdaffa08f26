import CqlSchema.Proofs.Document.Joining
import CqlSchema.Proofs.Plan.Refusal
import CqlSchema.Proofs.Plan.Renumbering
/-!
# Types in another order

A document may write its types in any order in which every type comes after those that it mentions.
Another such order gives the types other numbers and nothing else: the same tables are declared over
them or refused, and the plans differ at most in the order in which they create the types.
-/

namespace CqlSchema

open Outcome

/-- What is declared from the same body over two registries with the same names is the same up to
numbers. -/
theorem TypeOf.renumber_eq {first second : TypeRegistry}
    (sameNames : ∀ name, name ∈ first.types.map UserType.name ↔
      name ∈ second.types.map UserType.name)
    (laws : second.WellFormed) {written : String × Entries String} {type other : UserType}
    (declared : TypeOf first.Reads written type)
    (otherDeclared : TypeOf second.Reads written other) (member : other ∈ second.types) :
    type.renumber second.number = other := by
  have name : type.name = other.name := declared.name_eq.trans otherDeclared.name_eq.symm
  have index : second.number other.name = other.index :=
    congrArg UserType.index (laws.renumber_eq_self member)
  have fields : type.fields.map (Prod.map id (DataType.renumber second.number)) = other.fields := by
    refine map_eq_of_both (fun text field later _ read laterRead => ?_) declared.fields
      otherDeclared.fields
    have readAlike := TypeRegistry.parse_renumber sameNames text.2
    rw [show first.parse text.2 = _ from read.type_read,
      show second.parse text.2 = _ from laterRead.type_read] at readAlike
    exact Prod.ext (read.name_eq.trans laterRead.name_eq.symm) (Except.ok.inj readAlike).symm
  rw [UserType.renumber, name, index, fields]

namespace Catalog

/-- A document of types with different names that is declared from nothing leaves one type for every
entry, read over all of them, and no tables. -/
theorem types_of_declareDocument {types : Entries (Entries String)} {catalog : Catalog}
    (distinct : (types.map Prod.fst).Nodup)
    (declared : empty.declareDocument ⟨1, types, []⟩ = (catalog, .ok ())) :
    catalog.WellFormed ∧ catalog.tables = .empty ∧
      List.Forall₂ (TypeOf catalog.types.Reads)
        (types.map fun entry => (entry.1, entry.2.settle)) catalog.types.types := by
  have laws := kept_wellFormed.declareDocument wellFormed_empty ⟨1, types, []⟩
  have settled : (⟨1, types, []⟩ : Document).settled.types =
      types.map fun entry => (entry.1, entry.2.settle) := by
    refine Entries.settle_eq_self ?_
    rw [Entries.keys_map]
    exact distinct
  obtain ⟨⟨added, whole, each⟩, -⟩ := gains_of_declareDocument declared
  obtain ⟨-, entries⟩ := declareDocument_eq_ok.1 declared
  obtain ⟨middle, typesDeclared, none⟩ := declareEach_append_eq_ok.1 entries
  cases none
  rw [declared] at laws
  rw [settled, show added = catalog.types.types from whole.symm] at each
  exact ⟨laws, (declareEach_types_of_types typesDeclared).1, each⟩

/-- Catalogs that are declared from the same types in two orders are reordered. -/
theorem reordered_of_perm {types others : Entries (Entries String)} {first second : Catalog}
    (permuted : types.Perm others) (distinct : (types.map Prod.fst).Nodup)
    (declared : empty.declareDocument ⟨1, types, []⟩ = (first, .ok ()))
    (otherDeclared : empty.declareDocument ⟨1, others, []⟩ = (second, .ok ())) :
    first.WellFormed ∧ first.Reordered second := by
  have otherDistinct : (others.map Prod.fst).Nodup := (permuted.map Prod.fst).nodup_iff.1 distinct
  obtain ⟨laws, noTables, each⟩ := types_of_declareDocument distinct declared
  obtain ⟨otherLaws, noOtherTables, eachOther⟩ :=
    types_of_declareDocument otherDistinct otherDeclared
  have sameNames : ∀ name, name ∈ first.types.types.map UserType.name ↔
      name ∈ second.types.types.map UserType.name := by
    intro name
    rw [← map_eq_of_forall₂ (fun _ _ declared => declared.name_eq.symm) each,
      ← map_eq_of_forall₂ (fun _ _ declared => declared.name_eq.symm) eachOther]
    exact ((permuted.map _).map _).mem_iff
  -- In the order of the first document the types of the second catalog go with the same entries.
  obtain ⟨aligned, eachAligned, order⟩ := List.perm_comp_forall₂ (permuted.map _) eachOther
  have renumbered : first.types.types.map (UserType.renumber second.types.number) = aligned := by
    refine map_eq_of_both (fun written type other member declared otherDeclared => ?_) each
      eachAligned
    exact declared.renumber_eq sameNames otherLaws.types otherDeclared (order.subset member)
  refine ⟨laws, ⟨laws.types, otherLaws.types, renumbered ▸ order⟩, ?_⟩
  rw [noTables, noOtherTables]
  rfl

/-- Tables that are declared after the same types in two orders are declared or refused alike. Then
every keyspace is refused with the same error, or it has the same plan but for the order in which
the types are created. An error may hold a type; the numbers in it are all that differs, and they
are in neither its code nor its wording. -/
theorem plan_of_reordered_types {types others : Entries (Entries String)}
    {tables : Entries TableEntry} {first second after otherAfter : Catalog}
    {outcome otherOutcome : Except SchemaError Unit}
    (permuted : types.Perm others) (distinct : (types.map Prod.fst).Nodup)
    (declared : empty.declareDocument ⟨1, types, []⟩ = (first, .ok ()))
    (otherDeclared : empty.declareDocument ⟨1, others, []⟩ = (second, .ok ()))
    (ended : first.declareDocument ⟨1, [], tables⟩ = (after, outcome))
    (otherEnded : second.declareDocument ⟨1, [], tables⟩ = (otherAfter, otherOutcome)) :
    otherOutcome = outcome ∧ ∀ keyspace,
      (∃ error otherError, after.plan keyspace = .error error ∧
        otherAfter.plan keyspace = .error otherError ∧
        otherError = error.renumber otherAfter.types.number ∧
        otherError.code = error.code ∧
        ∀ explain, otherError.message explain = error.message explain) ∨
      ∃ plan otherPlan, after.plan keyspace = .ok plan ∧
        otherAfter.plan keyspace = .ok otherPlan ∧
        otherPlan.tables = plan.tables ∧ plan.types.Perm otherPlan.types := by
  obtain ⟨laws, reordered⟩ := reordered_of_perm permuted distinct declared otherDeclared
  have afterLaws := kept_wellFormed.declareDocument laws ⟨1, [], tables⟩
  obtain ⟨extended, sameOutcome⟩ : (first.declareDocument ⟨1, [], tables⟩).1.Reordered
      (second.declareDocument ⟨1, [], tables⟩).1 ∧
        (second.declareDocument ⟨1, [], tables⟩).2 = (first.declareDocument ⟨1, [], tables⟩).2 :=
    reordered.declareEach_tables (⟨1, [], tables⟩ : Document).settled.tables
  rw [ended] at afterLaws extended sameOutcome
  rw [otherEnded] at extended sameOutcome
  refine ⟨sameOutcome, fun keyspace => ?_⟩
  rcases extended.plan afterLaws keyspace with ⟨error, refused, otherRefused⟩ | planned
  · exact .inl ⟨error, _, refused, otherRefused, rfl, error.code_renumber,
      fun explain => error.message_renumber explain⟩
  · exact .inr planned

/-- Two types that stand in either order before a third one that mentions both are created in either
order, for a table that needs them all. -/
theorem plan_of_swapped_types :
    let point : String × Entries String := ("Point", [("x", "int"), ("y", "int")])
    let size : String × Entries String := ("Size", [("width", "int")])
    let path : String × Entries String :=
      ("Path", [("ends", "list<frozen<Point>>"), ("size", "frozen<Size>")])
    let tables : Entries TableEntry := [("routes", ⟨none,
      [("id", .detail ⟨some "uuid", some "partition", none, none, []⟩),
        ("path", .signature "Path")]⟩)]
    let first := (empty.declareDocument ⟨1, [point, size, path], []⟩).1
    let second := (empty.declareDocument ⟨1, [size, point, path], []⟩).1
    first ≠ second ∧
      ∃ after otherAfter, first.declareDocument ⟨1, [], tables⟩ = (after, .ok ()) ∧
        second.declareDocument ⟨1, [], tables⟩ = (otherAfter, .ok ()) ∧
        ∃ plan otherPlan, after.plan "app" = .ok plan ∧ otherAfter.plan "app" = .ok otherPlan ∧
          otherPlan.tables = plan.tables ∧ plan.types.Perm otherPlan.types := by
  intro point size path tables first second
  have declared : empty.declareDocument ⟨1, [point, size, path], []⟩ = (first, .ok ()) := by
    decide +kernel
  have otherDeclared : empty.declareDocument ⟨1, [size, point, path], []⟩ = (second, .ok ()) := by
    decide +kernel
  let after := (first.declareDocument ⟨1, [], tables⟩).1
  let otherAfter := (second.declareDocument ⟨1, [], tables⟩).1
  have ended : first.declareDocument ⟨1, [], tables⟩ = (after, .ok ()) := by decide +kernel
  have otherEnded : second.declareDocument ⟨1, [], tables⟩ = (otherAfter, .ok ()) := by
    decide +kernel
  have laws : after.WellFormed :=
    kept_wellFormed.declareDocument (kept_wellFormed.declareDocument wellFormed_empty _) _
  obtain ⟨plan, planned⟩ := laws.exists_plan (by decide : isIdentifier "app" = true)
    (by decide +kernel)
  obtain ⟨-, alike⟩ := plan_of_reordered_types (List.Perm.swap size point [path]) (by decide)
    declared otherDeclared ended otherEnded
  rcases alike "app" with ⟨error, -, refused, -⟩ | same
  · rw [planned] at refused
    cases refused
  · exact ⟨by decide +kernel, after, otherAfter, ended, otherEnded, same⟩

end Catalog

end CqlSchema
