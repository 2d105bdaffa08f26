import CqlSchema.Proofs.Document.Acceptance
import CqlSchema.Proofs.Document.Description
/-!
# References by name

The reader of signatures takes a word for a keyword before it looks for a declared type, and a
declaration keeps no words free. So a type is referred to by its name exactly when that name is not
reserved: then every text that is its name, up to blanks and wrappers, is read as a type that
mentions it, and this holds of every field and column that an accepted document declares.
-/

namespace CqlSchema

namespace DataType

/-- A text is a name, up to blanks and up to wrappers around it. Beside it in a map stands any text
that spells a type. -/
inductive Wraps (lookup : String → Option Handle) (name : String) : List Char → Prop where
  | name {text : List Char} : Padded name.toList text → Wraps lookup name text
  | enclosed {kind : Wrapper} {word : String} {head opening inner closing : List Char} :
      kind ≠ .map → HoldsWord word head → Text.sameFolded word kind.text = true →
      HoldsMark '<' opening → Wraps lookup name inner → HoldsMark '>' closing →
      Wraps lookup name (head ++ opening ++ inner ++ closing)
  | mapKey {word : String} {head opening left separator right closing : List Char}
      {value : DataType} :
      HoldsWord word head → Text.sameFolded word "map" = true → HoldsMark '<' opening →
      Wraps lookup name left → HoldsMark ',' separator → Spells lookup right value →
      HoldsMark '>' closing →
      Wraps lookup name (head ++ opening ++ left ++ separator ++ right ++ closing)
  | mapValue {word : String} {head opening left separator right closing : List Char}
      {key : DataType} :
      HoldsWord word head → Text.sameFolded word "map" = true → HoldsMark '<' opening →
      Spells lookup left key → HoldsMark ',' separator → Wraps lookup name right →
      HoldsMark '>' closing →
      Wraps lookup name (head ++ opening ++ left ++ separator ++ right ++ closing)

variable {lookup : String → Option Handle} {handle : Handle}

/-- A name that is read from its own text is read from every text that wraps it. -/
theorem Wraps.exists_spelled (spellable : Spellable lookup handle) {text : List Char}
    (wraps : Wraps lookup handle.name text) :
    ∃ type, Spells lookup text type ∧ type.Mentions handle := by
  induction wraps with
  | name padded =>
    have holds : HoldsWord handle.name _ := ⟨spellable.word, padded⟩
    exact ⟨.user false handle, .user holds spellable.free spellable.found, .user⟩
  | @enclosed kind word head opening inner closing single holds same opens _ closes ih =>
    obtain ⟨type, spelled, mentioned⟩ := ih
    cases kind with
    | frozen => exact ⟨_, .frozen holds same opens spelled closes, mentions_freeze.2 mentioned⟩
    | list => exact ⟨_, .list holds same opens spelled closes, .list mentioned⟩
    | set => exact ⟨_, .set holds same opens spelled closes, .set mentioned⟩
    | map => exact absurd rfl single
  | mapKey holds same opens _ parts beside closes ih =>
    obtain ⟨type, spelled, mentioned⟩ := ih
    exact ⟨_, .map holds same opens spelled parts beside closes, .mapKey mentioned⟩
  | mapValue holds same opens beside parts _ closes ih =>
    obtain ⟨type, spelled, mentioned⟩ := ih
    exact ⟨_, .map holds same opens beside parts spelled closes, .mapValue mentioned⟩

end DataType

namespace TypeRegistry

open DataType

variable {registry : TypeRegistry}

/-- The handle of a declared type is read from its name if that is not reserved. -/
theorem WellFormed.spellable_handle (laws : registry.WellFormed) {type : UserType}
    (member : type ∈ registry.types) (free : ¬ IsReserved type.name) :
    Spellable registry.lookup type.handle :=
  laws.spellable (Option.isSome_iff_exists.2 ⟨type, laws.resolve_handle member⟩) free

/-- What is read from a text that wraps the free name of a declared type mentions that type. -/
theorem WellFormed.mentions_of_wraps (laws : registry.WellFormed) {type : UserType}
    (member : type ∈ registry.types) (free : ¬ IsReserved type.name) {text : String}
    (wraps : Wraps registry.lookup type.name text.toList) {read : DataType}
    (reads : registry.Reads text read) : read.Mentions type.handle := by
  obtain ⟨spelledType, spelled, mentioned⟩ :=
    wraps.exists_spelled (laws.spellable_handle member free)
  obtain rfl := (parse_eq_ok_iff.1 reads).unique spelled
  exact mentioned

/-- A declared type is read from its name exactly when that name is not reserved. -/
theorem WellFormed.parse_name_iff (laws : registry.WellFormed) {type : UserType}
    (member : type ∈ registry.types) :
    registry.parse type.name = .ok (.user false type.handle) ↔ ¬ IsReserved type.name := by
  constructor
  · intro read
    exact (free_and_found_of_parse read .user).1
  · intro free
    have spellable := laws.spellable_handle member free
    rw [parse_eq_ok_iff]
    exact .user (holdsWord_self spellable.word) spellable.free spellable.found

end TypeRegistry

namespace Catalog

open DataType

/-- A declared type is read from its name exactly when that name is not reserved, and with a
reserved name it is mentioned in no type that is read. A text that is accepted writes a document
in whose fields and columns every text that wraps the free name of a declared type is declared as
a type that mentions it. -/
theorem referred_by_name {catalog : Catalog} (reachable : catalog.Reachable) :
    (∀ type ∈ catalog.types.types,
      (catalog.types.parse type.name = .ok (.user false type.handle) ↔
        ¬ IsReserved type.name) ∧
      (IsReserved type.name → ∀ text read, catalog.types.parse text = .ok read →
        ¬ read.Mentions type.handle)) ∧
    ∀ text after, catalog.declareText text = (after, .ok ()) →
      ∃ document, Document.ofText? text = some document ∧
        Gains (fun written read => ∀ type ∈ after.types.types, ¬ IsReserved type.name →
            Wraps after.types.lookup type.name written.toList → read.Mentions type.handle)
          catalog after document.settled.types document.settled.tables := by
  refine ⟨?_, ?_⟩
  · intro type member
    refine ⟨reachable.wellFormed.types.parse_name_iff member, ?_⟩
    intro reserved text read parsed mentioned
    exact (TypeRegistry.free_and_found_of_parse parsed mentioned).1 reserved
  · intro text after accepted
    obtain ⟨document, written, declared⟩ := declareText_eq_ok.1 accepted
    have laws : after.WellFormed := by
      have kept := kept_wellFormed.declareText reachable.wellFormed text
      rw [accepted] at kept
      exact kept
    refine ⟨document, written, (gains_of_declareDocument declared).imp ?_⟩
    intro given read reads type member free wraps
    exact laws.types.mentions_of_wraps member free wraps reads

/-- Beside a type that is named like a keyword, a frozen reference to another type is declared from
its name. -/
theorem reference_beside_keyword :
    let catalog := empty.performAll [.declareType "Point" [("x", .scalar false .int)],
      .declareType "List" [("head", .user true ⟨0, "Point"⟩)]]
    let disc : UserType := ⟨2, "Disc", [("centre", .user true ⟨0, "Point"⟩)]⟩
    let after : Catalog := ⟨⟨catalog.types.types ++ [disc]⟩, catalog.tables⟩
    let text := "types: \x7bDisc: \x7bcentre: frozen<Point>\x7d\x7d"
    catalog.types.parse "Point" = .ok (.user false ⟨0, "Point"⟩) ∧
      catalog.types.parse "List" ≠ .ok (.user false ⟨1, "List"⟩) ∧
      catalog.declareText text = (after, .ok ()) ∧
      ∃ document, Document.ofText? text = some document ∧
        Gains (fun written read => ∀ type ∈ after.types.types, ¬ IsReserved type.name →
            Wraps after.types.lookup type.name written.toList → read.Mentions type.handle)
          catalog after document.settled.types document.settled.tables := by
  have written : Document.ofText? "types: \x7bDisc: \x7bcentre: frozen<Point>\x7d\x7d" =
      some ⟨1, [("Disc", [("centre", "frozen<Point>")])], []⟩ := by decide +kernel
  intro catalog disc after text
  have reachable : catalog.Reachable := ⟨_, rfl⟩
  have laws := reachable.wellFormed.types
  let point : UserType := ⟨0, "Point", [("x", .scalar false .int)]⟩
  let list : UserType := ⟨1, "List", [("head", .user true point.handle)]⟩
  have types : catalog.types.types = [point, list] := by decide
  have pointDeclared : point ∈ catalog.types.types := by rw [types]; exact List.mem_cons_self
  have listDeclared : list ∈ catalog.types.types := by
    rw [types]
    exact List.mem_cons_of_mem _ List.mem_cons_self
  have pointFree : ¬ IsReserved point.name := ofWord?_eq_none_iff.1 (by decide)
  have listReserved : IsReserved list.name := ⟨.wrapper .list, by decide⟩
  let centre : String × DataType := ("centre", .user true point.handle)
  have admitted : catalog.types.Admits centre.2 := by
    constructor
    · intro handle mentioned
      cases mentioned
      exact ⟨point, laws.resolve_handle pointDeclared⟩
    · intro handle mentioned
      cases mentioned
      exact pointFree
  have entry : UserType.fieldEntry centre = ("centre", "frozen<Point>") := by decide
  have converted : catalog.field "Disc" ("centre", "frozen<Point>") = .ok centre :=
    entry ▸ field_fieldEntry laws "Disc" admitted
  have declared : catalog.declareTypeEntry ("Disc", [("centre", "frozen<Point>")]) =
      (after, .ok ()) := by
    refine declareTypeEntry_eq_ok.2 ⟨disc.fields, disc.handle, ?_, by decide⟩
    exact Outcome.mapM_eq_ok_iff_forall₂.2 (.cons converted .nil)
  have accepted : catalog.declareText text = (after, .ok ()) := by
    refine declareText_eq_ok.2 ⟨_, written, ?_⟩
    show declareEach declareEntry catalog
      [.type ("Disc", [("centre", "frozen<Point>")])] = (after, .ok ())
    rw [declareEach, declareEntry, declared]
    rfl
  obtain ⟨named, gains⟩ := referred_by_name reachable
  refine ⟨(named point pointDeclared).1.2 pointFree, ?_, accepted, gains text after accepted⟩
  intro read
  exact (named list listDeclared).1.1 read listReserved

/-- A declared type that is named like a scalar is not read from its name: the scalar is, and a
field of that type is declared with the scalar. -/
theorem shadowed_by_scalar :
    let catalog := empty.performAll [.declareType "text" [("x", .scalar false .int)]]
    let note : UserType := ⟨1, "Note", [("body", .scalar false .text)]⟩
    let after : Catalog := ⟨⟨catalog.types.types ++ [note]⟩, catalog.tables⟩
    catalog.Reachable ∧ (∃ type ∈ catalog.types.types, type.name = "text") ∧
      catalog.types.parse "text" = .ok (.scalar false .text) ∧
      catalog.declareText "types: \x7bNote: \x7bbody: text\x7d\x7d" = (after, .ok ()) := by
  have written : Document.ofText? "types: \x7bNote: \x7bbody: text\x7d\x7d" =
      some ⟨1, [("Note", [("body", "text")])], []⟩ := by decide +kernel
  intro catalog note after
  have read := catalog.types.parse_keyword .text
  have converted : catalog.field "Note" ("body", "text") = .ok ("body", .scalar false .text) :=
    field_eq_ok.2 ⟨rfl, read⟩
  have declared : catalog.declareTypeEntry ("Note", [("body", "text")]) = (after, .ok ()) := by
    refine declareTypeEntry_eq_ok.2 ⟨note.fields, note.handle, ?_, by decide⟩
    exact Outcome.mapM_eq_ok_iff_forall₂.2 (.cons converted .nil)
  refine ⟨⟨_, rfl⟩, by decide, read, ?_⟩
  refine declareText_eq_ok.2 ⟨_, written, ?_⟩
  show declareEach declareEntry catalog [.type ("Note", [("body", "text")])] = (after, .ok ())
  rw [declareEach, declareEntry, declared]
  rfl

end Catalog

end CqlSchema
