import CqlSchema.Proofs.DataType.RoundTrip
import CqlSchema.Proofs.Document.Acceptance
/-!
# What a refused document leaves

A document that is refused has changed a catalog by the entries before the one that is refused, and
by nothing else: they are declared in order, and the refused entry is converted and declared in the
catalog that they leave. A text that is no document, and a document in another version, change
nothing. Types come first, so no table is declared before all types are.
-/

namespace CqlSchema

open Outcome

namespace Catalog

variable {catalog after : Catalog} {refusal : SchemaError}

/-! ## Refused entries -/

/-- An entry of a document is refused by a catalog, because one of its parts is not converted or
because what it is converted to is not declared. -/
inductive Refuses (catalog : Catalog) : Entry → SchemaError → Prop
  | field {entry : String × Entries String} {written : String × String} {later : Entries String}
      {refusal : SchemaError}
      (first : IsFirst (fun written => ∃ other, catalog.field entry.1 written = .error other)
        entry.2 written later)
      (unconverted : catalog.field entry.1 written = .error refusal) :
      Refuses catalog (.type entry) refusal
  | type {entry : String × Entries String} {fields : List (String × DataType)}
      {refusal : SchemaError}
      (converted : List.Forall₂ (FieldOf catalog.types.Reads) entry.2 fields)
      (undeclared : catalog.addType entry.1 fields = (catalog, .error refusal)) :
      Refuses catalog (.type entry) refusal
  | column {entry : String × TableEntry} {written : String × ColumnEntry}
      {later : Entries ColumnEntry} {refusal : SchemaError}
      (first : IsFirst (fun written => ∃ other,
        catalog.namedColumn (entry.2.name.getD entry.1) written = .error other)
        entry.2.columns written later)
      (unconverted : catalog.namedColumn (entry.2.name.getD entry.1) written = .error refusal) :
      Refuses catalog (.table entry) refusal
  | table {entry : String × TableEntry} {columns : List (String × Column)}
      {refusal : SchemaError}
      (converted : List.Forall₂ (ColumnOf catalog.types.Reads) entry.2.columns columns)
      (undeclared : catalog.addTable ⟨entry.1, entry.2.name, columns⟩ =
        (catalog, .error refusal)) :
      Refuses catalog (.table entry) refusal

/-- An entry for a type that is not carried out is refused and changes nothing. -/
theorem declareTypeEntry_eq_error {entry : String × Entries String} :
    catalog.declareTypeEntry entry = (after, .error refusal) ↔
      after = catalog ∧ Refuses catalog (.type entry) refusal := by
  unfold declareTypeEntry
  constructor
  · intro failed
    split at failed
    · rename_i error unconverted
      cases failed
      obtain ⟨written, later, first, fieldFailed⟩ := mapM_eq_error.1 unconverted
      exact ⟨rfl, .field first fieldFailed⟩
    · rename_i fields converted
      rcases added : catalog.addType entry.1 fields with ⟨extended, outcome⟩
      simp only [added] at failed
      obtain ⟨rfl, refused⟩ := Prod.mk.inj failed
      obtain rfl := map_eq_error.1 refused
      obtain rfl := addType_eq_error added
      have each := mapM_eq_ok_iff_forall₂.1 converted
      exact ⟨rfl, .type (each.imp fun _ _ field => field_eq_ok.1 field) added⟩
  · rintro ⟨rfl, refused⟩
    cases refused with
    | field first unconverted => rw [mapM_eq_error.2 ⟨_, _, first, unconverted⟩]
    | type converted undeclared =>
      rw [mapM_eq_ok_iff_forall₂.2 (converted.imp fun _ _ field => field_eq_ok.2 field)]
      simp only [undeclared]
      rfl

/-- An entry for a table that is not carried out is refused and changes nothing. -/
theorem declareTableEntry_eq_error {entry : String × TableEntry} :
    catalog.declareTableEntry entry = (after, .error refusal) ↔
      after = catalog ∧ Refuses catalog (.table entry) refusal := by
  unfold declareTableEntry
  constructor
  · intro failed
    split at failed
    · rename_i error unconverted
      cases failed
      obtain ⟨written, later, first, columnFailed⟩ := mapM_eq_error.1 unconverted
      exact ⟨rfl, .column first columnFailed⟩
    · rename_i columns converted
      rcases added : catalog.addTable ⟨entry.1, entry.2.name, columns⟩ with ⟨extended, outcome⟩
      simp only [added] at failed
      obtain ⟨rfl, refused⟩ := Prod.mk.inj failed
      obtain rfl := map_eq_error.1 refused
      obtain rfl := addTable_eq_error added
      have each := mapM_eq_ok_iff_forall₂.1 converted
      exact ⟨rfl, .table (each.imp fun _ _ column => namedColumn_eq_ok.1 column) added⟩
  · rintro ⟨rfl, refused⟩
    cases refused with
    | column first unconverted => rw [mapM_eq_error.2 ⟨_, _, first, unconverted⟩]
    | table converted undeclared =>
      rw [mapM_eq_ok_iff_forall₂.2 (converted.imp fun _ _ column => namedColumn_eq_ok.2 column)]
      simp only [undeclared]
      rfl

/-- An entry that is not carried out is refused and changes nothing. -/
theorem declareEntry_eq_error {entry : Entry} :
    catalog.declareEntry entry = (after, .error refusal) ↔
      after = catalog ∧ Refuses catalog entry refusal := by
  cases entry with
  | type entry => exact declareTypeEntry_eq_error
  | table entry => exact declareTableEntry_eq_error

/-- Entries fail when one is refused after all before it are declared, which is all that stays. -/
theorem declareEach_eq_error {entries : List Entry} :
    declareEach declareEntry catalog entries = (after, .error refusal) ↔
      ∃ before entry later, entries = before ++ entry :: later ∧
        declareEach declareEntry catalog before = (after, .ok ()) ∧
        Refuses after entry refusal := by
  induction entries generalizing catalog with
  | nil =>
    constructor
    · intro failed
      cases failed
    · rintro ⟨before, entry, later, split, -⟩
      cases before <;> cases split
  | cons head rest ih =>
    rw [declareEach]
    constructor
    · intro failed
      split at failed
      · rename_i middle headDeclared
        obtain ⟨before, entry, later, rfl, declared, refused⟩ := ih.1 failed
        refine ⟨head :: before, entry, later, rfl, ?_, refused⟩
        exact declareEach_cons_eq_ok.2 ⟨middle, headDeclared, declared⟩
      · rename_i middle error headFailed
        cases failed
        obtain ⟨rfl, refused⟩ := declareEntry_eq_error.1 headFailed
        exact ⟨[], head, rest, rfl, rfl, refused⟩
    · rintro ⟨before, entry, later, split, declared, refused⟩
      cases before with
      | nil =>
        obtain ⟨rfl, rfl⟩ := List.cons.inj split
        cases declared
        rw [declareEntry_eq_error.2 ⟨rfl, refused⟩]
      | cons first before =>
        obtain ⟨rfl, rfl⟩ := List.cons.inj split
        obtain ⟨middle, headDeclared, laterDeclared⟩ := declareEach_cons_eq_ok.1 declared
        rw [headDeclared]
        exact ih.2 ⟨before, entry, later, rfl, laterDeclared, refused⟩

/-! ## Positions in a document -/

/-- Every entry writes one type or one table. -/
theorem length_types_add_tables (entries : List Entry) :
    (entries.flatMap Entry.types).length + (entries.flatMap Entry.tables).length =
      entries.length := by
  induction entries with
  | nil => rfl
  | cons entry rest ih =>
    have written : entry.types.length + entry.tables.length = 1 := by cases entry <;> rfl
    rw [List.flatMap_cons, List.flatMap_cons, List.length_append, List.length_append,
      List.length_cons]
    omega

/-- The entries before a position write types of the document, as many as the position allows. -/
theorem types_of_take (document : Document) (position : Nat) :
    (document.entries.take position).flatMap Entry.types =
      document.settled.types.take position := by
  simp [Document.entries, List.take_append, ← List.map_take, List.flatMap_map, Entry.types]

/-- The entries before a position write tables of the document, if they write all its types. -/
theorem tables_of_take (document : Document) (position : Nat) :
    (document.entries.take position).flatMap Entry.tables =
      document.settled.tables.take (position - document.settled.types.length) := by
  simp [Document.entries, List.take_append, ← List.map_take, List.flatMap_map, Entry.tables]

/-- A catalog is the one that a document leaves when the entry at a position is refused. -/
structure StopsAt (catalog : Catalog) (document : Document) (after : Catalog)
    (refusal : SchemaError) (position : Nat) : Prop where
  /-- The entries before the position are declared in order. -/
  declared : declareEach declareEntry catalog (document.entries.take position) = (after, .ok ())
  /-- The entry at the position is refused in the catalog that they leave. -/
  refused : ∃ entry, document.entries[position]? = some entry ∧ Refuses after entry refusal
  /-- What the entries before the position write is all that the catalog has gained. -/
  gains : Gains after.types.Reads catalog after (document.settled.types.take position)
    (document.settled.tables.take (position - document.settled.types.length))
  /-- No name of a table is taken but for stored tables. -/
  taken : ∀ name, after.tables.hasTable name = true ↔
    ∃ table ∈ after.tables.tables, Text.sameFolded table.name name = true
  /-- Tables are gained only beside all types of the document. -/
  typesFirst : after.tables ≠ catalog.tables →
    document.settled.types.take position = document.settled.types

/-- The position at which a document stops is the number of entries that the catalog has gained. -/
theorem StopsAt.sizes {document : Document} {position : Nat}
    (stops : StopsAt catalog document after refusal position) :
    after.types.types.length + after.tables.tables.length =
      catalog.types.types.length + catalog.tables.tables.length + position := by
  obtain ⟨entry, placed, -⟩ := stops.refused
  have inside : position < document.entries.length := (List.getElem?_eq_some_iff.1 placed).1
  have written := length_types_add_tables (document.entries.take position)
  rw [List.length_take_of_le inside.le, types_of_take, tables_of_take] at written
  obtain ⟨⟨types, typesEq, eachType⟩, ⟨tables, tablesEq, eachTable⟩⟩ := stops.gains
  have typeCount := eachType.length_eq
  have tableCount := eachTable.length_eq
  rw [typesEq, tablesEq, List.length_append, List.length_append]
  omega

/-- The tables stay as long as only types are declared. -/
theorem tables_of_declareEach {entries : List Entry}
    (declared : declareEach declareEntry catalog entries = (after, .ok ()))
    (onlyTypes : entries.flatMap Entry.tables = []) : after.tables = catalog.tables := by
  induction entries generalizing catalog with
  | nil =>
    cases declared
    rfl
  | cons entry rest ih =>
    obtain ⟨middle, entryDeclared, restDeclared⟩ := declareEach_cons_eq_ok.1 declared
    obtain ⟨entryTables, restTables⟩ := List.append_eq_nil_iff.1 onlyTypes
    cases entry with
    | table entry => cases entryTables
    | type entry =>
      obtain ⟨fields, handle, -, added⟩ := declareTypeEntry_eq_ok.1 entryDeclared
      rw [ih restDeclared restTables, (addType_eq_ok added).2]

/-- A document stops at no other position with the same catalog. -/
theorem StopsAt.position_eq {document : Document} {position other : Nat}
    (stops : StopsAt catalog document after refusal position)
    (stopsThere : StopsAt catalog document after refusal other) : other = position := by
  have reached := stops.sizes
  have reachedThere := stopsThere.sizes
  omega

/-- Entries of a document that fail stop at a position. -/
theorem exists_stopsAt (reachable : catalog.Reachable) {document : Document}
    (failed : declareEach declareEntry catalog document.entries = (after, .error refusal)) :
    ∃ position, StopsAt catalog document after refusal position := by
  obtain ⟨before, entry, later, split, declared, refused⟩ := declareEach_eq_error.1 failed
  have front : document.entries.take before.length = before := by
    rw [split, List.take_left]
  have gains := gains_of_declareEach declared
  rw [← front, types_of_take, tables_of_take] at gains
  have laws : after.WellFormed := by
    have kept := kept_wellFormed.declareEach reachable.wellFormed before
    rwa [declared] at kept
  refine ⟨before.length, by rwa [front], ⟨entry, by simp [split], refused⟩, gains,
    laws.tables.hasTable_iff, fun changed => ?_⟩
  -- Where the types of the document are not all among the entries, no table is.
  by_contra missing
  have short : before.length ≤ document.settled.types.length :=
    Nat.le_of_not_le fun long => missing (List.take_of_length_le long)
  refine changed (tables_of_declareEach declared ?_)
  rw [← front, tables_of_take, Nat.sub_eq_zero_of_le short, List.take_zero]

/-- Entries of a document fail where it stops. -/
theorem StopsAt.declareEach_eq {document : Document} {position : Nat}
    (stops : StopsAt catalog document after refusal position) :
    declareEach declareEntry catalog document.entries = (after, .error refusal) := by
  obtain ⟨entry, placed, refused⟩ := stops.refused
  refine declareEach_eq_error.2 ⟨_, entry, document.entries.drop (position + 1), ?_,
    stops.declared, refused⟩
  obtain ⟨inside, rfl⟩ := List.getElem?_eq_some_iff.1 placed
  rw [List.getElem_cons_drop, List.take_append_drop]

/-- A text is refused in three ways. One that is no document, or a document in another version,
changes nothing. A document in the supported version stops at one position, with exactly what the
entries before it declare. -/
theorem declareText_eq_error_iff (reachable : catalog.Reachable) (text : String) :
    catalog.declareText text = (after, .error refusal) ↔
      (Document.ofText? text = none ∧ after = catalog ∧ refusal = .unreadableDocument text) ∨
      ∃ document, Document.ofText? text = some document ∧
        (document.version ≠ 1 ∧ after = catalog ∧
            refusal = .unsupportedVersion document.version ∨
          document.version = 1 ∧ ∃! position, StopsAt catalog document after refusal position) := by
  unfold declareText
  cases Document.ofText? text with
  | none => simp [eq_comm]
  | some document =>
    simp only [reduceCtorEq, false_and, false_or, Option.some.injEq, exists_eq_left']
    unfold declareDocument
    split
    · rename_i supported
      simp only [show document.version = 1 from supported, ne_eq, not_true_eq_false, false_and,
        false_or, true_and]
      constructor
      · intro failed
        obtain ⟨position, stops⟩ := exists_stopsAt reachable failed
        exact ⟨position, stops, fun other stopsThere => stops.position_eq stopsThere⟩
      · rintro ⟨position, stops, -⟩
        exact stops.declareEach_eq
    · rename_i unsupported
      have other : document.version ≠ 1 := unsupported
      simp only [other, ne_eq, not_false_eq_true, true_and, false_and, or_false, Prod.mk.injEq,
        Except.error.injEq]
      constructor
      · rintro ⟨rfl, rfl⟩
        exact ⟨rfl, rfl⟩
      · rintro ⟨rfl, rfl⟩
        exact ⟨rfl, rfl⟩

/-- A document of one type and three tables stops at its second table, whose name is that of the
first one up to case. -/
theorem stopsAt_second_table :
    let catalog := empty.performAll [.declareType "Point" [("x", .scalar false .int)]]
    let document : Document :=
      ⟨1, [("S", [("w", "int")])], [("a", ⟨none, []⟩), ("A", ⟨none, []⟩), ("c", ⟨none, []⟩)]⟩
    let size : UserType := ⟨1, "S", [("w", .scalar false .int)]⟩
    let after : Catalog := ⟨⟨catalog.types.types ++ [size]⟩, ⟨[⟨"a", []⟩], ["a"]⟩⟩
    ∃ text, Document.ofText? text = some document ∧
      catalog.declareText text = (after, .error (.duplicateTable "A")) ∧
      StopsAt catalog document after (.duplicateTable "A") 2 := by
  intro catalog document size after
  obtain ⟨text, written⟩ : ∃ text, Document.ofText? text = some document := by
    refine ⟨"types: \x7bS: \x7bw: int\x7d\x7d\ntables: \x7ba: \x7bcolumns: \x7b\x7d\x7d, " ++
      "A: \x7bcolumns: \x7b\x7d\x7d, c: \x7bcolumns: \x7b\x7d\x7d\x7d", ?_⟩
    show _ = some (⟨1, [("S", [("w", "int")])],
      [("a", ⟨none, []⟩), ("A", ⟨none, []⟩), ("c", ⟨none, []⟩)]⟩ : Document)
    decide +kernel
  have failed : catalog.declareText text = (after, .error (.duplicateTable "A")) := by
    let middle : Catalog := ⟨after.types, catalog.tables⟩
    have typeDeclared : catalog.declareTypeEntry ("S", [("w", "int")]) = (middle, .ok ()) := by
      refine declareTypeEntry_eq_ok.2 ⟨size.fields, size.handle, ?_, by decide⟩
      have read := TypeRegistry.parse_keyword catalog.types .int
      exact mapM_eq_ok_iff_forall₂.2 (.cons (field_eq_ok.2 ⟨rfl, read⟩) .nil)
    have tableDeclared : middle.declareTableEntry ("a", ⟨none, []⟩) = (after, .ok ()) :=
      declareTableEntry_eq_ok.2 ⟨[], ⟨"a", []⟩, rfl, by decide⟩
    have refused : after.declareTableEntry ("A", ⟨none, []⟩) =
        (after, .error (.duplicateTable "A")) :=
      declareTableEntry_eq_error.2 ⟨rfl, .table .nil (by decide)⟩
    rw [declareText, written]
    show declareEach declareEntry catalog [.type ("S", [("w", "int")]), .table ("a", ⟨none, []⟩),
      .table ("A", ⟨none, []⟩), .table ("c", ⟨none, []⟩)] = _
    rw [declareEach, declareEntry, typeDeclared]
    show declareEach declareEntry middle _ = _
    rw [declareEach, declareEntry, tableDeclared]
    show declareEach declareEntry after _ = _
    rw [declareEach, declareEntry, refused]
  refine ⟨text, written, failed, ?_⟩
  have reachable : catalog.Reachable := ⟨_, rfl⟩
  rcases (declareText_eq_error_iff reachable text).1 failed with
    ⟨unread, -⟩ | ⟨other, same, ⟨unsupported, -⟩ | ⟨-, position, stops, -⟩⟩
  · rw [written] at unread
    cases unread
  · rw [written] at same
    cases same
    exact absurd rfl unsupported
  · rw [written] at same
    cases same
    obtain rfl : position = 2 := by
      have counted : 2 + 1 = 1 + 0 + position := stops.sizes
      omega
    exact stops

end Catalog

end CqlSchema
