import CqlSchema.Proofs.DataType.SignatureText
import CqlSchema.Proofs.Plan.Order
import CqlSchema.Proofs.Table.Fault
import CqlSchema.Proofs.Table.KeyText
/-!
# What can be recovered from a statement

The text of a statement loses nothing but the numbers of handles. Commas of map types have no
blank after them, so columns can be told apart; signatures hold no blanks, so a static column
differs from one whose type has an odd name; the key tells the role of every column, and the
orders that it leaves out are the undefined ones.
-/

namespace CqlSchema

namespace Column

/-- What a statement shows of a column: its name, its signature, its static flag and its role
in the key, with the order of a clustering column. -/
def shown (entry : String × Column) : String × String × Bool × Role :=
  (entry.1, entry.2.type.signature, entry.2.isStatic, entry.2.role)

/-- A column that is named by an identifier, with a type in which all handles are. -/
structure Named (entry : String × Column) : Prop where
  /-- The name of the column is an identifier. -/
  name : isIdentifier entry.1 = true
  /-- The names in its type are identifiers. -/
  type : entry.2.type.NamedByIdentifiers

/-! ## Text of a column -/

/-- Text after the signature of a column. -/
def staticText (isStatic : Bool) : String :=
  if isStatic then " static" else ""

/-- A column is written as its name, a blank, its signature and its static flag. -/
theorem toList_definition (name : String) (column : Column) :
    (column.definition name).toList =
      name.toList ++ ' ' :: (column.type.signature.toList ++
        (staticText column.isStatic).toList) := by
  have blank : " ".toList = [' '] := rfl
  unfold definition staticText
  cases column.isStatic <;>
    simp only [Bool.false_eq_true, if_true, if_false, String.toList_append, blank,
      List.append_assoc, List.cons_append, List.nil_append, List.append_nil, String.toList_empty]

/-- A character that stands neither in names nor in signatures nor in the word for static columns
is in no definition. -/
theorem Named.not_mem_definition {entry : String × Column} (named : Named entry) {c : Char}
    (notWord : isWordChar c = false) (notSignature : DataType.isSignatureChar c = false)
    (notStatic : c ∉ " static".toList) : c ∉ (entry.2.definition entry.1).toList := by
  have notBlank : c ≠ ' ' := by
    rintro rfl
    exact notStatic (by decide)
  have notFlag : c ∉ (staticText entry.2.isStatic).toList := by
    cases entry.2.isStatic with
    | false => exact List.not_mem_nil
    | true => exact notStatic
  simp only [toList_definition, List.mem_append, List.mem_cons, not_or]
  exact ⟨not_mem_of_isIdentifier named.name notWord, notBlank,
    DataType.not_mem_signature named.type notSignature, notFlag⟩

/-- Definitions of columns can be told when they are joined. -/
theorem Named.isItem_definition {entry : String × Column} (named : Named entry) :
    IsItem (entry.2.definition entry.1) := by
  have name := isItem_of_isIdentifier named.name
  have blank : IsTight [' '] := isTight_of_not_mem (by decide)
  have signature : IsTight entry.2.type.signature.toList :=
    isTight_of_last (DataType.not_mem_signature named.type (by decide))
      (DataType.getLast?_signature named.type)
  have flag : IsTight (staticText entry.2.isStatic).toList :=
    isTight_of_not_mem (by cases entry.2.isStatic <;> decide)
  refine ⟨by simp [toList_definition], ?_⟩
  rw [toList_definition]
  exact name.tight.append (blank.append (signature.append flag))

/-- The definition of a column tells its name, its signature and its static flag. -/
theorem Named.definition_inj {entry other : String × Column} (named : Named entry)
    (otherNamed : Named other)
    (same : entry.2.definition entry.1 = other.2.definition other.1) :
    entry.1 = other.1 ∧ entry.2.type.signature = other.2.type.signature ∧
      entry.2.isStatic = other.2.isStatic := by
  have letters := congrArg String.toList same
  rw [toList_definition, toList_definition] at letters
  have blank : isWordChar ' ' = false := by decide
  obtain ⟨names, rests⟩ := eq_of_append_mark (not_mem_of_isIdentifier named.name blank)
    (not_mem_of_isIdentifier otherNamed.name blank) letters
  -- A blank after the signature stands only before the word for static columns.
  have apart : ∀ {entry : String × Column}, Named entry → ∀ text : List Char,
      entry.2.type.signature.toList ≠ text ++ " static".toList := by
    intro entry named text equal
    refine DataType.not_mem_signature named.type (c := ' ') (by decide) ?_
    rw [equal]
    exact List.mem_append_right _ (by decide)
  refine ⟨String.toList_inj.1 names, ?_⟩
  cases flag : entry.2.isStatic with
  | false =>
    cases otherFlag : other.2.isStatic with
    | false =>
      rw [flag, otherFlag] at rests
      exact ⟨String.toList_inj.1 (List.append_cancel_right rests), rfl⟩
    | true =>
      rw [flag, otherFlag] at rests
      exact absurd ((List.append_nil _).symm.trans rests) (apart named _)
  | true =>
    cases otherFlag : other.2.isStatic with
    | false =>
      rw [flag, otherFlag] at rests
      exact absurd ((List.append_nil _).symm.trans rests.symm) (apart otherNamed _)
    | true =>
      rw [flag, otherFlag] at rests
      exact ⟨String.toList_inj.1 (List.append_cancel_right rests), rfl⟩

end Column

/-- Lists of the same images have the same images under any view that the first one tells. -/
theorem map_eq_of_map_eq {α β γ : Type} {image : α → β} {view : α → γ} {left right : List α}
    (told : ∀ first ∈ left, ∀ second ∈ right, image first = image second →
      view first = view second)
    (same : left.map image = right.map image) : left.map view = right.map view := by
  induction left generalizing right with
  | nil =>
    obtain rfl := List.map_eq_nil_iff.1 same.symm
    rfl
  | cons first left ih =>
    cases right with
    | nil => cases same
    | cons second right =>
      obtain ⟨sameFirst, sameRest⟩ := List.cons.inj same
      rw [List.map_cons, List.map_cons,
        told first List.mem_cons_self second List.mem_cons_self sameFirst,
        ih (fun one member other otherMember => told one (List.mem_cons_of_mem _ member) other
          (List.mem_cons_of_mem _ otherMember)) sameRest]

namespace Table

/-- Tables with a key whose columns have legible types. -/
structure Legible (table : Table) : Prop where
  /-- The table has a key. -/
  hasKey : table.HasKey
  /-- The names in the types of columns are identifiers. -/
  types : ∀ entry ∈ table.columns, entry.2.type.NamedByIdentifiers

/-- Columns of a legible table are named by identifiers, and so are their types. -/
theorem Legible.named {table : Table} (legible : table.Legible) {entry : String × Column}
    (member : entry ∈ table.columns) : Column.Named entry :=
  ⟨legible.hasKey.wellNamed.identifiers entry member, legible.types entry member⟩

/-- The definitions of columns can be told when they are joined. -/
theorem Legible.isItem_columnText {table : Table} (legible : table.Legible) {text : String}
    (member : text ∈ table.columnTexts) : IsItem text := by
  obtain ⟨entry, inColumns, rfl⟩ := List.mem_map.1 member
  exact (legible.named inColumns).isItem_definition

/-- No definition of a column holds a parenthesis. -/
theorem Legible.not_mem_columnText {table : Table} (legible : table.Legible) {text : String}
    (member : text ∈ table.columnTexts) : ')' ∉ text.toList := by
  obtain ⟨entry, inColumns, rfl⟩ := List.mem_map.1 member
  exact (legible.named inColumns).not_mem_definition (by decide) (by decide) (by decide)

/-- Characters of a statement for a table after the bracket that follows its name. -/
theorem toList_body (keyspace : String) (table : Table) :
    (Statement.createTable keyspace table).body.toList =
      (commaSeparated table.columnTexts).toList ++ ')' :: (' ' ::
        (table.primaryKeyText.toList ++ (table.orderText.toList ++ [';']))) := by
  have closing : ") ".toList = [')', ' '] := rfl
  have last : ";".toList = [';'] := rfl
  simp only [Statement.body, String.toList_append, closing, last, List.append_assoc,
    List.cons_append, List.nil_append]

/-- Legible tables with the same text after their names show the same columns. -/
theorem Legible.shown_eq {first second : Table} (firstLegible : first.Legible)
    (secondLegible : second.Legible) {keyspace other : String}
    (same : (Statement.createTable keyspace first).body =
      (Statement.createTable other second).body) :
    first.columns.map Column.shown = second.columns.map Column.shown := by
  have letters := congrArg String.toList same
  rw [toList_body, toList_body] at letters
  have firstFree : ')' ∉ (commaSeparated first.columnTexts).toList :=
    not_mem_commaSeparated (fun text member => firstLegible.not_mem_columnText member)
      (by decide) (by decide)
  have secondFree : ')' ∉ (commaSeparated second.columnTexts).toList :=
    not_mem_commaSeparated (fun text member => secondLegible.not_mem_columnText member)
      (by decide) (by decide)
  obtain ⟨columns, afterColumns⟩ := eq_of_append_mark firstFree secondFree letters
  have definitions : first.columnTexts = second.columnTexts :=
    commaSeparated_inj (fun text member => firstLegible.isItem_columnText member)
      (fun text member => secondLegible.isItem_columnText member) (String.toList_inj.1 columns)
  obtain ⟨samePartition, sameClustering, afterKey⟩ :=
    firstLegible.hasKey.primaryKey_inj secondLegible.hasKey (List.cons.inj afterColumns).2
  have sameOrders := firstLegible.hasKey.orderTexts_inj secondLegible.hasKey afterKey
  have sameKey : first.SameKey second := ⟨samePartition, sameClustering, sameOrders⟩
  refine map_eq_of_map_eq ?_ definitions
  intro entry member later laterMember written
  obtain ⟨names, signatures, flags⟩ :=
    (firstLegible.named member).definition_inj (secondLegible.named laterMember) written
  have roles := sameKey.role_eq firstLegible.hasKey secondLegible.hasKey member laterMember names
  simp only [Column.shown, names, signatures, flags, roles]

end Table

namespace UserType

/-- What a statement shows of a field: its name and its signature. -/
def fieldShown (field : String × DataType) : String × String :=
  (field.1, field.2.signature)

/-- Types whose fields are named by identifiers, and so are their types. -/
structure Legible (type : UserType) : Prop where
  /-- The fields are well named. -/
  wellNamed : type.fields.WellNamed
  /-- The names in the types of fields are identifiers. -/
  types : ∀ field ∈ type.fields, field.2.NamedByIdentifiers

/-- A field is written like a column that is not static. -/
theorem fieldText_eq_definition (field : String × DataType) :
    fieldText field = (Column.regular field.2).definition field.1 :=
  rfl

/-- Fields of a legible type are named by identifiers, and so are their types. -/
theorem Legible.named {type : UserType} (legible : type.Legible) {field : String × DataType}
    (member : field ∈ type.fields) : Column.Named (field.1, Column.regular field.2) :=
  ⟨legible.wellNamed.identifiers field member, legible.types field member⟩

/-- The texts of fields can be told when they are joined. -/
theorem Legible.isItem_fieldText {type : UserType} (legible : type.Legible) {text : String}
    (member : text ∈ type.fields.map fieldText) : IsItem text := by
  obtain ⟨field, inFields, rfl⟩ := List.mem_map.1 member
  exact (legible.named inFields).isItem_definition

/-- Legible types with the same text after their names show the same fields. -/
theorem Legible.shown_eq {first second : UserType} (firstLegible : first.Legible)
    (secondLegible : second.Legible) {keyspace other : String}
    (same : (Statement.createType keyspace first).body =
      (Statement.createType other second).body) :
    first.fields.map fieldShown = second.fields.map fieldShown := by
  have letters := congrArg String.toList same
  simp only [Statement.body, String.toList_append] at letters
  have inside := String.toList_inj.1 (List.append_cancel_right letters)
  have texts := commaSeparated_inj (fun text member => firstLegible.isItem_fieldText member)
    (fun text member => secondLegible.isItem_fieldText member) inside
  refine map_eq_of_map_eq ?_ texts
  intro field member later laterMember written
  rw [fieldText_eq_definition, fieldText_eq_definition] at written
  obtain ⟨names, signatures, -⟩ :=
    (firstLegible.named member).definition_inj (secondLegible.named laterMember) written
  exact Prod.ext names signatures

end UserType

namespace Catalog

variable {catalog : Catalog}

/-- Handles that resolve are named by identifiers. -/
theorem WellFormed.isIdentifier_handle (laws : catalog.WellFormed) {handle : Handle}
    {type : UserType} (found : catalog.types.resolve handle = some type) :
    isIdentifier handle.name = true := by
  rw [← TypeRegistry.name_of_resolve found]
  exact laws.types.identifiers type (TypeRegistry.mem_of_resolve found)

/-- Tables of a well-formed catalog that can be created are legible. -/
theorem WellFormed.legible_table (laws : catalog.WellFormed) {table : Table}
    (member : table ∈ catalog.tables.tables) (clean : table.fault? = none) : table.Legible where
  hasKey := ⟨laws.tables.wellNamed table member, Table.partitionKey_ne_nil clean⟩
  types entry inside handle mentioned := by
    obtain ⟨type, found⟩ := laws.resolved table member entry inside handle mentioned
    exact laws.isIdentifier_handle found

/-- Types of a well-formed catalog are legible. -/
theorem WellFormed.legible_type (laws : catalog.WellFormed) {type : UserType}
    (member : type ∈ catalog.types.types) : type.Legible where
  wellNamed := laws.types.wellNamed type member
  types field inside handle mentioned := by
    obtain ⟨dependency, found, -⟩ := laws.types.earlier type member field inside handle mentioned
    exact laws.isIdentifier_handle found

/-- Statements of reachable catalogs with the same text create the same thing: a table in the
same keyspace, under the same name and with columns that show the same, or a type in the same
keyspace, under the same name and with fields that show the same. -/
theorem recovered_of_text_eq {first second : Catalog} (firstReachable : first.Reachable)
    (secondReachable : second.Reachable) {keyspace other : String}
    (identifier : isIdentifier keyspace = true) (otherIdentifier : isIdentifier other = true) :
    (∀ table ∈ first.tables.tables, ∀ later ∈ second.tables.tables,
      ∀ (statement laterStatement : Statement) (handles laterHandles : List Handle),
        table.create keyspace = .ok (statement, handles) →
        later.create other = .ok (laterStatement, laterHandles) →
        statement.text = laterStatement.text →
          keyspace = other ∧ table.name = later.name ∧
            table.columns.map Column.shown = later.columns.map Column.shown) ∧
      ∀ type ∈ first.types.types, ∀ later ∈ second.types.types,
        (Statement.createType keyspace type).text = (Statement.createType other later).text →
          keyspace = other ∧ type.name = later.name ∧
            type.fields.map UserType.fieldShown = later.fields.map UserType.fieldShown := by
  have firstLaws := firstReachable.wellFormed
  have secondLaws := secondReachable.wellFormed
  constructor
  · intro table member later laterMember statement laterStatement handles laterHandles created
      laterCreated same
    obtain ⟨clean, shape⟩ := (Table.create_eq_ok _ _ _).1 created
    obtain ⟨laterClean, laterShape⟩ := (Table.create_eq_ok _ _ _).1 laterCreated
    obtain ⟨rfl, rfl⟩ := Prod.mk.inj shape
    obtain ⟨rfl, rfl⟩ := Prod.mk.inj laterShape
    obtain ⟨-, keyspaces, names, bodies⟩ :=
      (firstLaws.createTable_wellNamed identifier member).parts_of_text_eq
        (secondLaws.createTable_wellNamed otherIdentifier laterMember) same
    exact ⟨keyspaces, names, (firstLaws.legible_table member clean).shown_eq
      (secondLaws.legible_table laterMember laterClean) bodies⟩
  · intro type member later laterMember same
    obtain ⟨-, keyspaces, names, bodies⟩ :=
      (firstLaws.createType_wellNamed identifier member).parts_of_text_eq
        (secondLaws.createType_wellNamed otherIdentifier laterMember) same
    exact ⟨keyspaces, names,
      (firstLaws.legible_type member).shown_eq (secondLaws.legible_type laterMember) bodies⟩

/-- A type that mentions another and a table that mentions it, once declared first and once after
a third type, give the same texts although their handles differ. -/
theorem recovered_under_other_numbers :
    let point : List (String × DataType) := [("x", .scalar false .int)]
    let path (number : Nat) : List (String × DataType) :=
      [("ends", .map true (.scalar false .int) (.user true ⟨number, "Point"⟩))]
    let columns (number : Nat) : List (String × Column) :=
      [("k", .partition (.scalar false .int)), ("l", .partition (.scalar false .text)),
        ("c", .clustering (.scalar false .int) .descending),
        ("d", .clustering (.scalar false .int) .undefined),
        ("p", (Column.regular (.user true ⟨number, "Path"⟩)).withStatic true)]
    let first := empty.performAll [.declareType "Point" point, .declareType "Path" (path 0),
      .declareTable ⟨"t", none, columns 1⟩]
    let second := empty.performAll [.declareType "Spare" point, .declareType "Point" point,
      .declareType "Path" (path 1), .declareTable ⟨"t", none, columns 2⟩]
    first.Reachable ∧ second.Reachable ∧
      columns 1 ≠ columns 2 ∧ (columns 1).map Column.shown = (columns 2).map Column.shown ∧
      path 0 ≠ path 1 ∧ (path 0).map UserType.fieldShown = (path 1).map UserType.fieldShown := by
  intro point path columns first second
  have firstReachable : first.Reachable := ⟨_, rfl⟩
  have secondReachable : second.Reachable := ⟨_, rfl⟩
  have identifier : isIdentifier "ks" = true := by decide
  obtain ⟨tables, types⟩ :=
    recovered_of_text_eq firstReachable secondReachable identifier identifier
  have sameTable := (tables ⟨"t", columns 1⟩ (by decide) ⟨"t", columns 2⟩ (by decide) _ _ _ _
    rfl rfl (by decide)).2.2
  have sameType := (types ⟨1, "Path", path 0⟩ (by decide) ⟨2, "Path", path 1⟩ (by decide)
    (by decide)).2.2
  exact ⟨firstReachable, secondReachable, by decide, sameTable, by decide, sameType⟩

end Catalog

end CqlSchema
