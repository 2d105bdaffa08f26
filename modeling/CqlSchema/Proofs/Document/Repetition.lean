import CqlSchema.Proofs.Document.Reconstruction
/-!
# Repeated keys

A written document may repeat a key in any of its mappings. The mappings are settled before
anything is declared, so of the entries under one key only the last counts, and no error tells that
the others are lost. A document is declared entry by entry exactly when it repeats no key; names
that differ but fold to the same text are always refused, in one mapping and across documents.
-/

namespace CqlSchema

open Outcome

namespace Document

/-- No mapping of a document repeats a key. -/
structure Unrepeated (document : Document) : Prop where
  /-- No two types are written under one name. -/
  types : (document.types.map Prod.fst).Nodup
  /-- No two fields of a type are written under one name. -/
  fields : ∀ entry ∈ document.types, (entry.2.map Prod.fst).Nodup
  /-- No two tables are written under one key. -/
  tables : (document.tables.map Prod.fst).Nodup
  /-- No two columns of a table are written under one name. -/
  columns : ∀ entry ∈ document.tables, (entry.2.columns.map Prod.fst).Nodup

/-- A document that repeats no key is settled. -/
theorem Unrepeated.settled_eq {document : Document} (unrepeated : document.Unrepeated) :
    document.settled = document :=
  settled_eq_self (Entries.settle_eq_self unrepeated.types)
    (fun entry member => Entries.settle_eq_self (unrepeated.fields entry member))
    (Entries.settle_eq_self unrepeated.tables)
    (fun entry member => Entries.settle_eq_self (unrepeated.columns entry member))

/-- A settled document repeats no key. -/
theorem unrepeated_settled (document : Document) : document.settled.Unrepeated where
  types := Entries.nodup_keys_settle _
  fields entry member := by
    obtain ⟨written, -, rfl⟩ := List.mem_map.1 (Entries.mem_of_mem_settle member)
    exact Entries.nodup_keys_settle _
  tables := Entries.nodup_keys_settle _
  columns entry member := by
    obtain ⟨written, -, rfl⟩ := List.mem_map.1 (Entries.mem_of_mem_settle member)
    exact Entries.nodup_keys_settle _

/-- Names of a document that differ when they are folded, among themselves and from the names that
a catalog declared before. -/
structure KeptApart (document : Document) (before : Catalog) : Prop where
  /-- Names of types differ from each other and from those declared before. -/
  types : ((before.types.types.map fun type => Text.fold type.name) ++
    document.settled.types.map fun entry => Text.fold entry.1).Nodup
  /-- Names of the fields of a type differ. -/
  fields : ∀ entry ∈ document.settled.types, (entry.2.map fun field => Text.fold field.1).Nodup
  /-- Names of tables differ from each other and from those declared before. -/
  tables : ((before.tables.tables.map fun table => Text.fold table.name) ++
    document.settled.tables.map fun entry => Text.fold (entry.2.name.getD entry.1)).Nodup
  /-- Names of the columns of a table differ. -/
  columns : ∀ entry ∈ document.settled.tables,
    (entry.2.columns.map fun column => Text.fold column.1).Nodup

/-- Repeated keys are never noticed: a document is declared as it is once it is settled. -/
theorem declareDocument_settled (catalog : Catalog) (document : Document) :
    catalog.declareDocument document.settled = catalog.declareDocument document := by
  have again : document.settled.settled = document.settled :=
    (unrepeated_settled document).settled_eq
  rw [Catalog.declareDocument, Catalog.declareDocument, entries, entries, again]
  rfl

end Document

/-! ## Written and settled entries -/

/-- Items that go with the settled entries and with the written ones alike show that no key is
repeated, and they show of each body what they show of a body that goes with the same item when it
is settled. -/
theorem Entries.unrepeated_of_forall₂ {α β : Type} {relation : String × α → β → Prop}
    (settleBody : α → α) {unrepeated : String × α → Prop}
    (body : ∀ entry item, relation (entry.1, settleBody entry.2) item → relation entry item →
      unrepeated entry) {written : Entries α} {items : List β}
    (settled : List.Forall₂ relation
      (settle (written.map fun entry => (entry.1, settleBody entry.2))) items)
    (direct : List.Forall₂ relation written items) :
    (written.map Prod.fst).Nodup ∧ ∀ entry ∈ written, unrepeated entry := by
  have keys := keys_map settleBody written
  have lengths := settled.length_eq.trans direct.length_eq.symm
  have distinct := length_settle_eq_iff.1 (lengths.trans (List.length_map _).symm)
  rw [settle_eq_self distinct, List.forall₂_map_left_iff] at settled
  have both := List.Forall₂.mp (fun entry item inSettled inWritten =>
    And.intro (body entry item inSettled inWritten) inWritten) settled direct
  exact ⟨keys ▸ distinct, ((List.forall₂_and_left _ _).1 both).1⟩

namespace Catalog

variable {reads : String → DataType → Prop} {before after : Catalog} {document : Document}

/-- A catalog that gains the settled entries gains the written ones only where no key is
repeated. -/
theorem Gains.unrepeated
    (settled : Gains reads before after document.settled.types document.settled.tables)
    (written : Gains reads before after document.types document.tables) :
    document.Unrepeated := by
  obtain ⟨⟨types, typesEq, eachSettledType⟩, tables, tablesEq, eachSettledTable⟩ := settled
  obtain ⟨⟨sameTypes, sameTypesEq, eachType⟩, sameTables, sameTablesEq, eachTable⟩ := written
  obtain rfl : types = sameTypes := List.append_cancel_left (typesEq.symm.trans sameTypesEq)
  obtain rfl : tables = sameTables := List.append_cancel_left (tablesEq.symm.trans sameTablesEq)
  -- A body goes with the same item written and settled, so settling it loses nothing.
  have fieldKeys : ∀ (entry : String × Entries String) (type : UserType),
      TypeOf reads (entry.1, entry.2.settle) type → TypeOf reads entry type →
        (entry.2.map Prod.fst).Nodup := by
    intro entry type inSettled inWritten
    refine Entries.length_settle_eq_iff.1 ?_
    rw [inSettled.fields.length_eq, inWritten.fields.length_eq]
  have columnKeys : ∀ (entry : String × TableEntry) (table : Table),
      TableOf reads (entry.1, { entry.2 with columns := entry.2.columns.settle }) table →
        TableOf reads entry table → (entry.2.columns.map Prod.fst).Nodup := by
    intro entry table inSettled inWritten
    refine Entries.length_settle_eq_iff.1 ?_
    rw [inSettled.columns.length_eq, inWritten.columns.length_eq]
  obtain ⟨typeKeys, fields⟩ :=
    Entries.unrepeated_of_forall₂ Entries.settle fieldKeys eachSettledType eachType
  obtain ⟨tableKeys, columns⟩ :=
    Entries.unrepeated_of_forall₂ (fun table => { table with columns := table.columns.settle })
      columnKeys eachSettledTable eachTable
  exact ⟨typeKeys, fields, tableKeys, columns⟩

/-- In a well-formed catalog the names of the settled entries that it gained are kept apart. -/
theorem Gains.keptApart (laws : after.WellFormed)
    (settled : Gains reads before after document.settled.types document.settled.tables) :
    document.KeptApart before := by
  obtain ⟨⟨types, typesEq, eachType⟩, tables, tablesEq, eachTable⟩ := settled
  have typeNames : (document.settled.types.map fun entry => Text.fold entry.1) =
      types.map fun type => Text.fold type.name :=
    map_eq_of_forall₂ (fun _ _ declared => congrArg Text.fold declared.name_eq.symm) eachType
  have tableNames : (document.settled.tables.map fun entry =>
      Text.fold (entry.2.name.getD entry.1)) = tables.map fun table => Text.fold table.name :=
    map_eq_of_forall₂ (fun _ _ declared => congrArg Text.fold declared.name_eq.symm) eachTable
  refine ⟨?_, forall_of_forall₂ eachType ?_, ?_, forall_of_forall₂ eachTable ?_⟩
  · rw [typeNames, ← List.map_append, ← typesEq]
    exact laws.types.distinct
  · intro entry type member declared
    have inside : type ∈ after.types.types := typesEq ▸ List.mem_append_right _ member
    have fieldNames : (entry.2.map fun field => Text.fold field.1) =
        type.fields.map fun field => Text.fold field.1 :=
      map_eq_of_forall₂ (fun _ _ field => congrArg Text.fold field.name_eq.symm) declared.fields
    rw [fieldNames]
    exact (laws.types.wellNamed type inside).distinct
  · rw [tableNames, ← List.map_append, ← tablesEq]
    exact laws.tables.distinct
  · intro entry table member declared
    have inside : table ∈ after.tables.tables := tablesEq ▸ List.mem_append_right _ member
    have columnNames : (entry.2.columns.map fun column => Text.fold column.1) =
        table.columns.map fun column => Text.fold column.1 :=
      map_eq_of_forall₂ (fun _ _ column => congrArg Text.fold column.name_eq.symm) declared.columns
    rw [columnNames]
    exact (laws.tables.wellNamed table inside).distinct

/-- A document fares as it does once it is settled, so no repeated key is ever refused. When it is
accepted, a catalog gains exactly its settled entries; it gains every written entry exactly where
no key is repeated. Names that fold to the same text are never accepted together, and neither is a
name together with one that was declared before. -/
theorem gains_written_iff {catalog : Catalog} (reachable : catalog.Reachable)
    (document : Document) :
    catalog.declareDocument document.settled = catalog.declareDocument document ∧
    ∀ after, catalog.declareDocument document = (after, .ok ()) →
      Gains after.types.Reads catalog after document.settled.types document.settled.tables ∧
      (Gains after.types.Reads catalog after document.types document.tables ↔
        document.Unrepeated) ∧
      document.KeptApart catalog := by
  refine ⟨Document.declareDocument_settled catalog document, fun after accepted => ?_⟩
  have settled := gains_of_declareDocument accepted
  have laws : after.WellFormed := by
    have kept := kept_wellFormed.declareDocument reachable.wellFormed document
    rw [accepted] at kept
    exact kept
  refine ⟨settled, ⟨settled.unrepeated, fun unrepeated => ?_⟩, settled.keptApart laws⟩
  rw [unrepeated.settled_eq] at settled
  exact settled

/-- A document with one type of two fields and one table is declared entry by entry beside a type
that was declared before. -/
theorem gains_of_unrepeated :
    let catalog := empty.performAll [.declareType "Point" [("x", .scalar false .int)]]
    let document : Document := ⟨1, [("Size", [("width", "int"), ("height", "int")])],
      [("shapes", ⟨none, [("id", .detail ⟨some "uuid", some "partition", none, none, []⟩)]⟩)]⟩
    let size : UserType :=
      ⟨1, "Size", [("width", .scalar false .int), ("height", .scalar false .int)]⟩
    let shapes : Table := ⟨"shapes", [("id", .partition (.scalar false .uuid))]⟩
    let after : Catalog := ⟨⟨catalog.types.types ++ [size]⟩, ⟨[shapes], ["shapes"]⟩⟩
    catalog.declareDocument document = (after, .ok ()) ∧
      Gains after.types.Reads catalog after document.types document.tables ∧
      document.KeptApart catalog := by
  intro catalog document size shapes after
  let middle : Catalog := ⟨after.types, catalog.tables⟩
  have fields : List.Forall₂ (FieldOf catalog.types.Reads) [("width", "int"), ("height", "int")]
      size.fields := by
    refine .cons ⟨rfl, ?_⟩ (.cons ⟨rfl, ?_⟩ .nil)
    · exact catalog.types.parse_keyword .int
    · exact catalog.types.parse_keyword .int
  have columns : List.Forall₂ (ColumnOf middle.types.Reads)
      [("id", .detail ⟨some "uuid", some "partition", none, none, []⟩)] shapes.columns := by
    refine .cons ⟨rfl, ⟨"uuid", rfl, ?_⟩, rfl⟩ .nil
    exact middle.types.parse_keyword .uuid
  have accepted : catalog.declareDocument document = (after, .ok ()) := by
    have typeDeclared : catalog.declareTypeEntry ("Size", [("width", "int"), ("height", "int")]) =
        (middle, .ok ()) := by
      refine declareTypeEntry_eq_ok.2 ⟨size.fields, size.handle, ?_, by decide⟩
      exact Outcome.mapM_eq_ok_iff_forall₂.2 (fields.imp fun _ _ field => field_eq_ok.2 field)
    have tableDeclared : middle.declareTableEntry ("shapes",
        ⟨none, [("id", .detail ⟨some "uuid", some "partition", none, none, []⟩)]⟩) =
          (after, .ok ()) := by
      refine declareTableEntry_eq_ok.2 ⟨shapes.columns, shapes, ?_, by decide⟩
      exact Outcome.mapM_eq_ok_iff_forall₂.2
        (columns.imp fun _ _ column => namedColumn_eq_ok.2 column)
    show declareEach declareEntry catalog [.type ("Size", [("width", "int"), ("height", "int")]),
      .table ("shapes",
        ⟨none, [("id", .detail ⟨some "uuid", some "partition", none, none, []⟩)]⟩)] =
          (after, .ok ())
    rw [declareEach, declareEntry, typeDeclared]
    show declareEach declareEntry middle _ = (after, .ok ())
    rw [declareEach, declareEntry, tableDeclared]
    rfl
  have reachable : catalog.Reachable := ⟨_, rfl⟩
  obtain ⟨-, written, apart⟩ := (gains_written_iff reachable document).2 after accepted
  have unrepeated : document.Unrepeated := ⟨by decide, by decide, by decide, by decide⟩
  exact ⟨accepted, written.2 unrepeated, apart⟩

/-- A text that writes one type twice is accepted, and the first body is lost. -/
theorem first_body_lost :
    let document : Document := ⟨1, [("A", [("x", "int")]), ("A", [("y", "text")])], []⟩
    let after : Catalog := ⟨⟨[⟨0, "A", [("y", .scalar false .text)]⟩]⟩, .empty⟩
    Document.ofText? "types:\n  A: \x7bx: int\x7d\n  A: \x7by: text\x7d\n" = some document ∧
      empty.declareDocument document = (after, .ok ()) ∧
      ¬ Gains after.types.Reads empty after document.types document.tables := by
  have written : Document.ofText? "types:\n  A: \x7bx: int\x7d\n  A: \x7by: text\x7d\n" =
      some ⟨1, [("A", [("x", "int")]), ("A", [("y", "text")])], []⟩ := by decide +kernel
  intro document after
  have declared : empty.declareTypeEntry ("A", [("y", "text")]) = (after, .ok ()) := by
    refine declareTypeEntry_eq_ok.2
      ⟨[("y", .scalar false .text)], ⟨0, "A"⟩, ?_, by decide⟩
    have read := TypeRegistry.parse_keyword empty.types .text
    exact Outcome.mapM_eq_ok_iff_forall₂.2 (.cons (field_eq_ok.2 ⟨rfl, read⟩) .nil)
  refine ⟨written, ?_, ?_⟩
  · show declareEach declareEntry empty [.type ("A", [("y", "text")])] = (after, .ok ())
    rw [declareEach, declareEntry, declared]
    rfl
  · rintro ⟨⟨added, whole, each⟩, -⟩
    have added_length : added.length = 1 := by
      rw [← show after.types.types = added from whole]
      rfl
    have entries : document.types.length = added.length := each.length_eq
    rw [added_length] at entries
    cases entries

end Catalog

end CqlSchema
