import CqlSchema.Proofs.Catalog.Serialized
import CqlSchema.Proofs.DataType.Words
import CqlSchema.Proofs.Statement.Recovery
/-!
# Names of types in statements

A statement gives a type to each of its columns or fields. The names of declared types that occur in
the texts of these types are the names of the handles that the statement depends on, so what is
created for a statement is what its text mentions. A catalog in which a type is named like a keyword
is left out, since there a word does not tell whether it stands for the type.
-/

namespace CqlSchema

namespace Statement

/-- Texts of the types that a statement gives to its columns or fields, in order. -/
def typeTexts : Statement → List String
  | .createType _ type => type.fields.map fun field => field.2.signature
  | .createTable _ table => table.columns.map fun entry => entry.2.type.signature

/-- A part of a statement gives a type to a name: the text of the type stands between the name and
the word for static columns. -/
def GivesType (part typeText : String) : Prop :=
  ∃ name isStatic, part = name ++ " " ++ typeText ++ Column.staticText isStatic

/-- Behind the name of what a statement creates stand, up to the next closing bracket, parts that
give the types. -/
def GivesTypes (statement : Statement) (typeTexts : List String) : Prop :=
  ∃ parts closing,
    statement.text = statement.opening ++ statement.keyspace ++ "." ++ statement.name ++ "(" ++
        commaSeparated parts ++ ")" ++ closing ∧
      (∀ part ∈ parts, ')' ∉ part.toList) ∧ List.Forall₂ GivesType parts typeTexts

/-- The definition of a column gives it its type. -/
theorem givesType_definition (name : String) (column : Column) :
    GivesType (column.definition name) column.type.signature := by
  refine ⟨name, column.isStatic, String.toList_inj.1 ?_⟩
  rw [Column.toList_definition]
  simp

end Statement

open Statement

/-- The statement for a legible table gives the types of its columns. -/
theorem Table.Legible.givesTypes {table : Table} (legible : table.Legible) (keyspace : String) :
    (Statement.createTable keyspace table).GivesTypes
      (typeTexts (.createTable keyspace table)) := by
  refine ⟨table.columnTexts, " " ++ table.primaryKeyText ++ table.orderText ++ ";", ?_,
    fun part member => legible.not_mem_columnText member, ?_⟩
  · have closing : ") " = ")" ++ " " := rfl
    simp only [Statement.text_eq, body, closing, String.append_assoc]
  · rw [Table.columnTexts, typeTexts, List.forall₂_map_left_iff, List.forall₂_map_right_iff,
      List.forall₂_same]
    intro entry _
    exact givesType_definition entry.1 entry.2

/-- The statement for a legible type gives the types of its fields. -/
theorem UserType.Legible.givesTypes {type : UserType} (legible : type.Legible)
    (keyspace : String) :
    (Statement.createType keyspace type).GivesTypes (typeTexts (.createType keyspace type)) := by
  refine ⟨type.fields.map UserType.fieldText, ";", ?_, ?_, ?_⟩
  · have closing : ");" = ")" ++ ";" := rfl
    simp only [Statement.text_eq, body, closing, commaSeparated, String.append_assoc]
  · intro part member
    obtain ⟨field, inFields, rfl⟩ := List.mem_map.1 member
    exact (legible.named inFields).not_mem_definition (by decide) (by decide) (by decide)
  · rw [typeTexts, List.forall₂_map_left_iff, List.forall₂_map_right_iff, List.forall₂_same]
    intro field _
    exact givesType_definition field.1 (.regular field.2)

namespace Catalog

variable {catalog : Catalog}

/-- Words of a text that name types of a catalog, in order. -/
def typeNames (catalog : Catalog) (text : String) : List String :=
  (DataType.words text).filter fun word => catalog.types.types.any fun type => type.name == word

/-- Where no declared type is named like a keyword, the declared names in a signature are those of
its handles. -/
theorem WellFormed.typeNames_signature (laws : catalog.WellFormed) (free : catalog.Unreserved)
    {type : DataType} (own : ∀ handle, type.Mentions handle →
      ∃ declared, catalog.types.resolve handle = some declared) :
    catalog.typeNames type.signature = type.userTypes.map Handle.name := by
  have named : type.NamedByIdentifiers := by
    intro handle mentioned
    obtain ⟨declared, found⟩ := own handle mentioned
    exact laws.isIdentifier_handle found
  have unreserved : ∀ handle, type.Mentions handle → ¬ DataType.IsReserved handle.name := by
    intro handle mentioned
    obtain ⟨declared, found⟩ := own handle mentioned
    rw [← TypeRegistry.name_of_resolve found]
    exact free declared (TypeRegistry.mem_of_resolve found)
  have left := DataType.freeWords_signature named unreserved
  rw [← left, typeNames, DataType.freeWords]
  refine List.filter_congr fun word inText => ?_
  rw [Bool.eq_iff_iff, List.any_eq_true, Option.isNone_iff_eq_none, DataType.ofWord?_eq_none_iff]
  constructor
  · rintro ⟨declared, member, same⟩
    obtain rfl := beq_iff_eq.1 same
    exact free declared member
  · intro notReserved
    -- A word that is no keyword is the name of a handle, and that handle is one of the catalog.
    have isName : word ∈ DataType.freeWords type.signature := by
      refine List.mem_filter.2 ⟨inText, ?_⟩
      rw [DataType.ofWord?_eq_none_iff.2 notReserved]
      rfl
    rw [left] at isName
    obtain ⟨handle, member, rfl⟩ := List.mem_map.1 isName
    obtain ⟨declared, found⟩ := own handle (DataType.mem_userTypes_iff.1 member)
    exact ⟨declared, TypeRegistry.mem_of_resolve found,
      beq_iff_eq.2 (TypeRegistry.name_of_resolve found)⟩

/-- Of signatures in a row the declared names are those of all their handles. -/
theorem WellFormed.flatMap_typeNames (laws : catalog.WellFormed) (free : catalog.Unreserved)
    {types : List DataType} (own : ∀ type ∈ types, ∀ handle, type.Mentions handle →
      ∃ declared, catalog.types.resolve handle = some declared) :
    (types.map DataType.signature).flatMap catalog.typeNames =
      (types.flatMap DataType.userTypes).map Handle.name := by
  rw [List.flatMap_map, List.map_flatMap]
  refine List.flatMap_congr fun type member => ?_
  exact laws.typeNames_signature free (own type member)

/-- Without the keywords a signature has exactly the names of its handles as its words, where these
are identifiers and no keywords. In a catalog without types that are named like keywords, the names
of types in what a statement gives its columns or fields are exactly those of the handles that come
with the statement, or on which the created type depends. -/
theorem names_written :
    (∀ type : DataType, type.NamedByIdentifiers →
      (∀ handle, type.Mentions handle → ¬ DataType.IsReserved handle.name) →
        DataType.freeWords type.signature = type.userTypes.map Handle.name) ∧
    ∀ catalog : Catalog, catalog.Reachable → catalog.Unreserved →
      (∀ table ∈ catalog.tables.tables, ∀ keyspace statement handles,
        table.create keyspace = .ok (statement, handles) →
          statement.GivesTypes statement.typeTexts ∧
            statement.typeTexts.flatMap catalog.typeNames = handles.map Handle.name) ∧
      ∀ type ∈ catalog.types.types, ∀ keyspace,
        (Statement.createType keyspace type).GivesTypes (typeTexts (.createType keyspace type)) ∧
          (typeTexts (.createType keyspace type)).flatMap catalog.typeNames =
            type.dependencies.map Handle.name := by
  refine ⟨fun type named free => DataType.freeWords_signature named free, ?_⟩
  intro catalog reachable free
  have laws := reachable.wellFormed
  constructor
  · intro table member keyspace statement handles created
    obtain ⟨clean, shape⟩ := (Table.create_eq_ok _ _ _).1 created
    obtain ⟨rfl, rfl⟩ := Prod.mk.inj shape
    have texts : typeTexts (.createTable keyspace table) =
        (table.columns.map fun entry => entry.2.type).map DataType.signature :=
      List.map_map.symm
    have handles : table.userTypes =
        (table.columns.map fun entry => entry.2.type).flatMap DataType.userTypes :=
      (List.flatMap_map _ _ _).symm
    refine ⟨(laws.legible_table member clean).givesTypes keyspace, ?_⟩
    rw [texts, handles]
    refine laws.flatMap_typeNames free fun type inside handle mentioned => ?_
    obtain ⟨entry, inColumns, rfl⟩ := List.mem_map.1 inside
    exact laws.resolved table member entry inColumns handle mentioned
  · intro type member keyspace
    have texts : typeTexts (.createType keyspace type) =
        (type.fields.map Prod.snd).map DataType.signature := List.map_map.symm
    have handles : type.dependencies =
        (type.fields.map Prod.snd).flatMap DataType.userTypes := (List.flatMap_map _ _ _).symm
    refine ⟨(laws.legible_type member).givesTypes keyspace, ?_⟩
    rw [texts, handles]
    refine laws.flatMap_typeNames free fun fieldType inside handle mentioned => ?_
    obtain ⟨field, inFields, rfl⟩ := List.mem_map.1 inside
    obtain ⟨dependency, found, -⟩ := laws.types.earlier type member field inFields handle mentioned
    exact ⟨dependency, found⟩

/-- A field and a column that are themselves named like declared types do not count: the names are
those in the types, frozen or inside collections, as often as they occur there. -/
theorem names_written_of_map :
    let catalog := empty.performAll
      [.declareType "Point" [("x", .scalar false .int)],
        .declareType "Path" [("Point", .scalar true .text),
          ("ends", .map true (.scalar false .int) (.user true ⟨0, "Point"⟩))],
        .declareTable ⟨"t", none, [("Path", .partition (.scalar false .int)),
          ("q", (Column.regular (.map true (.user true ⟨1, "Path"⟩)
            (.list false (.user false ⟨0, "Point"⟩)))).withStatic true),
          ("r", .regular (.user false ⟨1, "Path"⟩))]⟩]
    ∃ statement handles, (∃ table ∈ catalog.tables.tables,
        table.create "ks" = .ok (statement, handles)) ∧
      statement.GivesTypes ["int", "frozen<map<frozen<Path>,list<Point>>>", "Path"] ∧
      ["int", "frozen<map<frozen<Path>,list<Point>>>", "Path"].flatMap catalog.typeNames =
        ["Path", "Point", "Path"] ∧
      ∃ type ∈ catalog.types.types, type.name = "Path" ∧
        (typeTexts (.createType "ks" type)).flatMap catalog.typeNames = ["Point"] ∧
        DataType.freeWords (DataType.user true type.handle).signature = ["Path"] := by
  intro catalog
  let path : UserType := ⟨1, "Path", [("Point", .scalar true .text),
    ("ends", .map true (.scalar false .int) (.user true ⟨0, "Point"⟩))]⟩
  have reachable : catalog.Reachable := ⟨_, rfl⟩
  have pointFree : ¬ DataType.IsReserved "Point" := DataType.ofWord?_eq_none_iff.1 (by decide)
  have pathFree : ¬ DataType.IsReserved "Path" := DataType.ofWord?_eq_none_iff.1 (by decide)
  have free : catalog.Unreserved :=
    List.forall_mem_cons.2 ⟨pointFree, List.forall_mem_singleton.2 pathFree⟩
  obtain ⟨signatures, catalogs⟩ := names_written
  obtain ⟨tables, types⟩ := catalogs catalog reachable free
  obtain ⟨gives, names⟩ := tables _ List.mem_cons_self "ks" _ _ rfl
  have pathNames := (types path (by decide) "ks").2
  refine ⟨_, _, ⟨_, List.mem_cons_self, rfl⟩, gives, names, path, by decide, rfl, pathNames, ?_⟩
  refine signatures (.user true path.handle) ?_ ?_
  · intro handle mentioned
    cases mentioned with
    | user => decide
  · intro handle mentioned
    cases mentioned with
    | user => exact pathFree

end Catalog

end CqlSchema
