import CqlSchema.Catalog.Json
import CqlSchema.Proofs.Document.Reconstruction
import CqlSchema.Proofs.Json.Reading
import CqlSchema.Proofs.Statement.Recovery
/-!
# What the JSON form of a catalog tells

The JSON form of a catalog tells everything that its statements show: the names, the signatures and
the roles, in order. Numbers and taken names are not written, but a catalog that declarations build
numbers its types by position and takes the names of its tables. So where no type has the name of a
keyword, and a signature spells one type only, the form tells the whole catalog.
-/

namespace CqlSchema

open Json

attribute [ext] Column Table UserType Catalog

/-! ## Objects and their members -/

namespace Json

/-- The strings of texts are the same only when the texts are. -/
theorem text_eq_iff {first second : String} : text first = text second ↔ first = second :=
  ⟨fun same => quote_injective (Json.string.inj same), congrArg text⟩

/-- The objects of members are the same only when the members are. -/
theorem ofMembers_eq_iff {first second : List (String × Json)} :
    ofMembers first = ofMembers second ↔ first = second := by
  refine ⟨fun same => List.map_injective_iff.2 ?_ (Json.object.inj same), congrArg ofMembers⟩
  rintro ⟨key, value⟩ ⟨otherKey, otherValue⟩ members
  obtain ⟨keys, values⟩ := Prod.mk.inj members
  rw [quote_injective keys, values]

end Json

/-! ## Written forms -/

/-- The members of a role are texts. -/
theorem Role.isWritten_members (role : Role) : ∀ member ∈ role.members, IsWritten member.2 := by
  cases role with
  | partition => exact List.forall_mem_singleton.2 (.text _)
  | clustering order =>
    exact List.forall_mem_cons.2 ⟨.text _, List.forall_mem_singleton.2 (.text _)⟩
  | regular => exact List.forall_mem_singleton.2 (.text _)

/-- A column has a written form. -/
theorem Column.isWritten_toJson (column : Column) : IsWritten column.toJson := by
  refine .ofMembers (List.forall_mem_cons.2 ⟨.text _, fun member inside => ?_⟩)
  rcases List.mem_append.1 inside with ofRole | flag
  · exact column.role.isWritten_members member ofRole
  · obtain rfl := List.mem_singleton.1 flag
    exact .bool column.isStatic

/-- A name and an object of named forms are a written form. -/
theorem isWritten_named {α : Type} {image : α → Json} (each : ∀ item, IsWritten (image item))
    (name key : String) (entries : List (String × α)) :
    IsWritten (.ofMembers [("name", .text name),
      (key, .ofMembers (entries.map fun (name, item) => (name, image item)))]) := by
  refine .ofMembers (List.forall_mem_cons.2 ⟨.text _, List.forall_mem_singleton.2 (.ofMembers ?_)⟩)
  intro member inside
  obtain ⟨entry, -, rfl⟩ := List.mem_map.1 inside
  exact each entry.2

/-- The form of a catalog is a written one. -/
theorem Catalog.isWritten_toJson (catalog : Catalog) : IsWritten catalog.toJson := by
  refine .ofMembers (List.forall_mem_cons.2
    ⟨.array fun item inside => ?_, List.forall_mem_singleton.2 (.array fun item inside => ?_)⟩)
  · obtain ⟨type, -, rfl⟩ := List.mem_map.1 inside
    exact isWritten_named (fun _ => .text _) type.name "fields" type.fields
  · obtain ⟨table, -, rfl⟩ := List.mem_map.1 inside
    exact isWritten_named Column.isWritten_toJson table.name "columns" table.columns

/-! ## What forms tell -/

/-- The words for orders are the same only when the orders are. -/
theorem ClusteringOrder.word_eq_iff {first second : ClusteringOrder} :
    first.word = second.word ↔ first = second := by
  cases first <;> cases second <;> decide

/-- The members of a column behind its type tell its role and its static flag. -/
theorem Role.members_inj {first second : Role} {isStatic otherStatic : Bool}
    (same : first.members ++ [("static", Json.bool isStatic)] =
      second.members ++ [("static", Json.bool otherStatic)]) :
    first = second ∧ isStatic = otherStatic := by
  cases first <;> cases second <;>
    simp_all [Role.members, ClusteringOrder.toJson, text_eq_iff, ClusteringOrder.word_eq_iff]

/-- A column has the form of another exactly when its signature, flag and role are the same. -/
theorem Column.toJson_eq_iff {first second : Column} :
    first.toJson = second.toJson ↔ first.type.signature = second.type.signature ∧
      first.isStatic = second.isStatic ∧ first.role = second.role := by
  rw [Column.toJson, Column.toJson, ofMembers_eq_iff]
  constructor
  · intro same
    obtain ⟨types, rest⟩ := List.cons.inj same
    obtain ⟨roles, flags⟩ := Role.members_inj rest
    exact ⟨text_eq_iff.1 (Prod.mk.inj types).2, flags, roles⟩
  · rintro ⟨signatures, flags, roles⟩
    rw [DataType.toJson, DataType.toJson, signatures, flags, roles]

/-- Lists have the same images under one view exactly when they have them under another, if both
views tell the same items apart. -/
theorem map_eq_iff_of_eq_iff {α β γ : Type} {image : α → β} {view : α → γ}
    (told : ∀ first second, image first = image second ↔ view first = view second)
    (left right : List α) : left.map image = right.map image ↔ left.map view = right.map view :=
  ⟨map_eq_of_map_eq fun first _ second _ => (told first second).1,
    map_eq_of_map_eq fun first _ second _ => (told first second).2⟩

/-- Lists of the same images are the same if the image tells their items. -/
theorem eq_of_map_eq {α β : Type} {image : α → β} {left right : List α}
    (told : ∀ first ∈ left, ∀ second ∈ right, image first = image second → first = second)
    (same : left.map image = right.map image) : left = right := by
  have items : left.map id = right.map id := map_eq_of_map_eq told same
  rwa [List.map_id, List.map_id] at items

/-- Lists of the same views have the same images if the view tells the image of what stands in the
same place of both. -/
theorem map_eq_of_places {α β γ : Type} {image : α → β} {view : α → γ} {left right : List α}
    (told : ∀ (position : Nat) (first second : α), left[position]? = some first →
      right[position]? = some second → view first = view second → image first = image second)
    (same : left.map view = right.map view) : left.map image = right.map image := by
  refine List.ext_getElem? fun position => ?_
  have here := congrArg (·[position]?) same
  simp only [List.getElem?_map] at here ⊢
  cases place : left[position]? with
  | none =>
    rw [place] at here
    rw [Option.map_eq_none_iff.1 here.symm]
  | some first =>
    rw [place] at here
    obtain ⟨second, otherPlace, sameView⟩ := Option.map_eq_some_iff.1 here.symm
    rw [otherPlace, Option.map_some, Option.map_some,
      told position first second place otherPlace sameView.symm]

/-- A name and an object of named forms tell the name, and of every entry what its form tells. -/
theorem named_eq_iff {α γ : Type} {image : α → Json} {view : String × α → γ}
    (told : ∀ first second : String × α,
      (first.1, image first.2) = (second.1, image second.2) ↔ view first = view second)
    (key name other : String) (entries others : List (String × α)) :
    Json.ofMembers [("name", .text name),
        (key, .ofMembers (entries.map fun (name, item) => (name, image item)))] =
      Json.ofMembers [("name", .text other),
        (key, .ofMembers (others.map fun (name, item) => (name, image item)))] ↔
      (name, entries.map view) = (other, others.map view) := by
  rw [ofMembers_eq_iff, Prod.mk.injEq, ← map_eq_iff_of_eq_iff told entries others]
  simp only [List.cons.injEq, Prod.mk.injEq, true_and, and_true, text_eq_iff, ofMembers_eq_iff]

namespace UserType

/-- What the form of a type shows: its name and what its fields show. -/
def shown (type : UserType) : String × List (String × String) :=
  (type.name, type.fields.map fieldShown)

/-- A type has the form of another exactly when it shows the same. -/
theorem toJson_eq_iff {first second : UserType} :
    first.toJson = second.toJson ↔ first.shown = second.shown := by
  refine named_eq_iff (fun field other => ?_) "fields" first.name second.name first.fields
    second.fields
  rw [fieldShown, fieldShown, Prod.mk.injEq, Prod.mk.injEq, DataType.toJson, DataType.toJson,
    text_eq_iff]

end UserType

namespace Table

/-- What the form of a table shows: its name and what its columns show. -/
def shown (table : Table) : String × List (String × String × Bool × Role) :=
  (table.name, table.columns.map Column.shown)

/-- A table has the form of another exactly when it shows the same. -/
theorem toJson_eq_iff {first second : Table} :
    first.toJson = second.toJson ↔ first.shown = second.shown := by
  refine named_eq_iff (fun entry other => ?_) "columns" first.name second.name first.columns
    second.columns
  simp only [Column.shown, Prod.mk.injEq, Column.toJson_eq_iff]

end Table

namespace Catalog

/-- Two catalogs show the same in their forms. -/
structure ShowsSame (first second : Catalog) : Prop where
  /-- Their types show the same, in the same order. -/
  types : first.types.types.map UserType.shown = second.types.types.map UserType.shown
  /-- Their tables show the same, in the same order. -/
  tables : first.tables.tables.map Table.shown = second.tables.tables.map Table.shown

/-- Catalogs have the same text of their forms exactly when they show the same. -/
theorem compact_eq_iff {first second : Catalog} :
    first.toJson.compact = second.toJson.compact ↔ ShowsSame first second := by
  have forms : first.toJson = second.toJson ↔
      first.types.types.map UserType.toJson = second.types.types.map UserType.toJson ∧
        first.tables.tables.map Table.toJson = second.tables.tables.map Table.toJson := by
    simp [Catalog.toJson, TypeRegistry.toJson, TableRegistry.toJson, ofMembers_eq_iff]
  rw [map_eq_iff_of_eq_iff (fun _ _ => UserType.toJson_eq_iff),
    map_eq_iff_of_eq_iff (fun _ _ => Table.toJson_eq_iff)] at forms
  constructor
  · intro same
    obtain ⟨types, tables⟩ :=
      forms.1 (first.isWritten_toJson.eq_of_compact_eq second.isWritten_toJson same)
    exact ⟨types, tables⟩
  · rintro ⟨types, tables⟩
    rw [forms.2 ⟨types, tables⟩]

/-! ## Catalogs that are told whole -/

/-- A name is looked up among the handles of the types, in order. -/
theorem lookup_eq_find? (registry : TypeRegistry) (name : String) :
    registry.lookup name =
      (registry.types.map UserType.handle).find? fun handle => handle.name == name := by
  rw [List.find?_map]
  rfl

/-- Registries that number their types by position look the same names up in the same way when
their types have the same names. -/
theorem lookup_eq_of_names {first second : TypeRegistry} (firstLaws : first.WellFormed)
    (secondLaws : second.WellFormed)
    (names : first.types.map UserType.name = second.types.map UserType.name) :
    first.lookup = second.lookup := by
  have handles : first.types.map UserType.handle = second.types.map UserType.handle := by
    refine map_eq_of_places (fun position type other place otherPlace same => ?_) names
    rw [UserType.handle, UserType.handle, firstLaws.index_eq _ _ place,
      secondLaws.index_eq _ _ otherPlace, same]
  funext name
  rw [lookup_eq_find?, lookup_eq_find?, handles]

/-- A catalog none of whose types has the name of a keyword. -/
def Unreserved (catalog : Catalog) : Prop :=
  ∀ type ∈ catalog.types.types, ¬ DataType.IsReserved type.name

/-- Types with the same names are unreserved together. -/
theorem Unreserved.of_names {first second : Catalog} (free : first.Unreserved)
    (names : first.types.types.map UserType.name = second.types.types.map UserType.name) :
    second.Unreserved := by
  intro type member
  have inNames : type.name ∈ first.types.types.map UserType.name :=
    names ▸ List.mem_map_of_mem member
  obtain ⟨other, otherMember, same⟩ := List.mem_map.1 inNames
  exact same ▸ free other otherMember

/-- A type whose handles resolve in an unreserved catalog is admitted. -/
theorem Unreserved.admits {catalog : Catalog} (free : catalog.Unreserved) {type : DataType}
    (resolved : ∀ handle, type.Mentions handle →
      ∃ dependency, catalog.types.resolve handle = some dependency) :
    catalog.types.Admits type := by
  refine ⟨resolved, fun handle mentioned => ?_⟩
  obtain ⟨dependency, found⟩ := resolved handle mentioned
  rw [← TypeRegistry.name_of_resolve found]
  exact free dependency (TypeRegistry.mem_of_resolve found)

/-- Two catalogs in which a signature spells at most one type. -/
structure Agree (first second : Catalog) : Prop where
  /-- Laws of the one catalog. -/
  laws : first.WellFormed
  /-- Laws of the other catalog. -/
  otherLaws : second.WellFormed
  /-- No type of the one has the name of a keyword. -/
  free : first.Unreserved
  /-- The types have the same names. -/
  names : first.types.types.map UserType.name = second.types.types.map UserType.name

namespace Agree

variable {first second : Catalog}

/-- Types with the same signature are the same when their handles resolve. -/
theorem eq_of_signature_eq (agree : Agree first second) {type other : DataType}
    (resolved : ∀ handle, type.Mentions handle →
      ∃ dependency, first.types.resolve handle = some dependency)
    (otherResolved : ∀ handle, other.Mentions handle →
      ∃ dependency, second.types.resolve handle = some dependency)
    (same : type.signature = other.signature) : type = other := by
  have spelled := spells_of_admits agree.laws.types (agree.free.admits resolved)
  have otherSpelled := spells_of_admits agree.otherLaws.types
    ((agree.free.of_names agree.names).admits otherResolved)
  rw [lookup_eq_of_names agree.laws.types agree.otherLaws.types agree.names, same] at spelled
  exact spelled.unique otherSpelled

/-- Types that show the same have the same fields. -/
theorem fields_eq (agree : Agree first second) {type other : UserType}
    (member : type ∈ first.types.types) (otherMember : other ∈ second.types.types)
    (same : type.shown = other.shown) : type.fields = other.fields := by
  refine eq_of_map_eq (fun field inside later otherInside shown => ?_) (Prod.mk.inj same).2
  obtain ⟨names, signatures⟩ := Prod.mk.inj shown
  refine Prod.ext names (agree.eq_of_signature_eq ?_ ?_ signatures)
  · intro handle mentioned
    obtain ⟨dependency, found, -⟩ :=
      agree.laws.types.earlier type member field inside handle mentioned
    exact ⟨dependency, found⟩
  · intro handle mentioned
    obtain ⟨dependency, found, -⟩ :=
      agree.otherLaws.types.earlier other otherMember later otherInside handle mentioned
    exact ⟨dependency, found⟩

/-- Types that show the same in the same order are the same, with their numbers. -/
theorem types_eq (agree : Agree first second)
    (same : first.types.types.map UserType.shown = second.types.types.map UserType.shown) :
    first.types = second.types := by
  have types : first.types.types.map id = second.types.types.map id := by
    refine map_eq_of_places (fun position type other place otherPlace shown => ?_) same
    have fields := agree.fields_eq (List.mem_of_getElem? place) (List.mem_of_getElem? otherPlace)
      shown
    have numbers : type.index = other.index := by
      rw [agree.laws.types.index_eq _ _ place, agree.otherLaws.types.index_eq _ _ otherPlace]
    exact UserType.ext numbers (Prod.mk.inj shown).1 fields
  rw [List.map_id, List.map_id] at types
  exact congrArg TypeRegistry.mk types

/-- Tables that show the same are the same. -/
theorem table_eq (agree : Agree first second) {table other : Table}
    (member : table ∈ first.tables.tables) (otherMember : other ∈ second.tables.tables)
    (same : table.shown = other.shown) : table = other := by
  obtain ⟨names, columnsShown⟩ := Prod.mk.inj same
  refine Table.ext names
    (eq_of_map_eq (fun entry inside later otherInside shown => ?_) columnsShown)
  simp only [Column.shown, Prod.mk.injEq] at shown
  obtain ⟨entryNames, signatures, flags, roles⟩ := shown
  have types := agree.eq_of_signature_eq (agree.laws.resolved table member entry inside)
    (agree.otherLaws.resolved other otherMember later otherInside) signatures
  exact Prod.ext entryNames (Column.ext types roles flags)

end Agree

/-- The text of the form of a catalog tells what the catalog shows, and nothing else. Where no type
has the name of a keyword, it tells the whole catalog, with the numbers of types and handles. -/
theorem told_by_compact {first second : Catalog} (firstReachable : first.Reachable)
    (secondReachable : second.Reachable) :
    (first.toJson.compact = second.toJson.compact ↔ ShowsSame first second) ∧
      (first.Unreserved → first.toJson.compact = second.toJson.compact → first = second) := by
  refine ⟨compact_eq_iff, fun free same => ?_⟩
  obtain ⟨typesShown, tablesShown⟩ := compact_eq_iff.1 same
  have names : first.types.types.map UserType.name = second.types.types.map UserType.name :=
    map_eq_of_map_eq (fun _ _ _ _ shown => (Prod.mk.inj shown).1) typesShown
  have agree : Agree first second :=
    ⟨firstReachable.wellFormed, secondReachable.wellFormed, free, names⟩
  have types := agree.types_eq typesShown
  have tables : first.tables.tables = second.tables.tables :=
    eq_of_map_eq (fun _ member _ otherMember => agree.table_eq member otherMember) tablesShown
  have registries : first.tables = second.tables := by
    rw [firstReachable.tables_eq_ofTables, secondReachable.tables_eq_ofTables, tables]
  exact Catalog.ext types registries

/-- Two runs of declarations with the same text of their forms, one of them with refusals and with
a table that is renamed, reach the same catalog. -/
theorem told_after_refusals :
    let point : List (String × DataType) := [("x", .scalar false .int)]
    let columns : List (String × Column) :=
      [("k", .partition (.scalar true .int)), ("c", .clustering (.scalar false .text) .undefined),
        ("p", (Column.regular (.list false (.user true ⟨0, "Point"⟩))).withStatic true)]
    let first := empty.performAll [.declareType "Point" point, .declareTable ⟨"t", none, columns⟩]
    let second := empty.performAll [.declareTable ⟨"t", none, columns⟩,
      .declareType "Point" point, .declareType "POINT" point,
      .declareTable ⟨"u", some "t", columns⟩, .declareTable ⟨"T", none, []⟩]
    first.toJson.compact = second.toJson.compact ∧ first = second := by
  intro point columns first second
  have firstReachable : first.Reachable := ⟨_, rfl⟩
  have secondReachable : second.Reachable := ⟨_, rfl⟩
  have free : first.Unreserved :=
    List.forall_mem_singleton.2 (DataType.ofWord?_eq_none_iff.1 (by decide))
  have told := told_by_compact firstReachable secondReachable
  have same : first.toJson.compact = second.toJson.compact := told.1.2 ⟨by decide, by decide⟩
  exact ⟨same, told.2 free same⟩

/-- A type with the name of a keyword is not told from the scalar of that keyword. -/
example :
    let fields (type : DataType) : List (String × DataType) := [("x", type)]
    let catalog (type : DataType) := empty.performAll
      [.declareType "int" (fields (.scalar false .text)), .declareType "Pair" (fields type)]
    let scalar := catalog (.scalar false .int)
    let named := catalog (.user false ⟨0, "int"⟩)
    scalar.toJson.compact = named.toJson.compact ∧ scalar ≠ named := by
  decide

end Catalog

end CqlSchema
