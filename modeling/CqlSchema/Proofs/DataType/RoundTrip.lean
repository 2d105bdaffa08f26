import CqlSchema.DataType.Signature
import CqlSchema.Proofs.DataType.Grammar
import CqlSchema.Proofs.TypeRegistry.Invariant
/-!
# Signatures that are read back

The signature of a type spells that type, unless the name of a user defined type in it is
reserved: a reserved word is always read as its keyword. Whatever a registry reads mentions only
names that are found, so its signature is read back in every case.
-/

namespace CqlSchema.DataType

variable {lookup : String → Option Handle}

/-- Demands on a handle under which its name is read as that handle. -/
structure Spellable (lookup : String → Option Handle) (handle : Handle) : Prop where
  /-- The name is one word. -/
  word : IsWord handle.name.toList
  /-- The name is no keyword. -/
  free : ¬ IsReserved handle.name
  /-- The name is looked up as this handle. -/
  found : lookup handle.name = some handle

/-! ## What signatures spell -/

/-- A token spells itself without blanks. -/
theorem padded_self (token : List Char) : Padded token token :=
  ⟨[], [], by simp, by simp [Blanks], by simp [Blanks]⟩

/-- A word is held by its own text. -/
theorem holdsWord_self {word : String} (isWord : IsWord word.toList) :
    HoldsWord word word.toList :=
  ⟨isWord, padded_self word.toList⟩

/-- A mark is held by its own text. -/
theorem holdsMark_self (mark : Char) : HoldsMark mark [mark] :=
  padded_self [mark]

/-- The spelling of a keyword is one word. -/
theorem Keyword.isWord_text (keyword : Keyword) : IsWord keyword.text.toList := by
  have checked : keyword.text.toList ≠ [] ∧ keyword.text.toList.all isWordChar = true := by
    cases keyword with
    | wrapper kind => cases kind <;> decide
    | scalar base => cases base <;> decide
  exact ⟨checked.1, List.all_eq_true.1 checked.2⟩

/-- A keyword is spelled by itself. -/
theorem Keyword.sameFolded_text (keyword : Keyword) :
    Text.sameFolded keyword.text keyword.text = true :=
  Text.sameFolded_iff.2 rfl

/-- The word of a wrapper is held by its own text. -/
theorem holdsWord_wrapper (kind : Wrapper) : HoldsWord kind.text kind.text.toList :=
  holdsWord_self (Keyword.wrapper kind).isWord_text

/-- A wrapper that is written around a text that spells a type spells what its frame makes of
that type. -/
theorem spells_enclosed (kind : Wrapper) {inner : String} {item outer : DataType}
    (spelled : Spells lookup inner.toList item)
    (received : kind.frame.receive item = .inl outer) :
    Spells lookup (kind.text ++ "<" ++ inner ++ ">").toList outer := by
  have bracket : kind.frame.closer = '>' := by
    cases kind with
    | map => cases received
    | _ => rfl
  have closes : HoldsMark kind.frame.closer ['>'] := bracket ▸ holdsMark_self '>'
  have whole := spelled.wrapped kind (holdsWord_wrapper kind)
    (Keyword.wrapper kind).sameFolded_text (holdsMark_self '<') closes received
  have opening : "<".toList = ['<'] := rfl
  have closing : ">".toList = ['>'] := rfl
  rw [String.toList_append, String.toList_append, String.toList_append, opening, closing]
  exact whole

/-- A text that spells an unfrozen type spells the frozen one inside `frozen`. -/
theorem Spells.wrapFrozen {inner : String} (type : DataType)
    (spelled : Spells lookup inner.toList (type.withFrozen false)) (frozen : Bool) :
    Spells lookup (wrapFrozen frozen inner).toList (type.withFrozen frozen) := by
  cases frozen with
  | false => exact spelled
  | true =>
    have thawed : (type.withFrozen false).freeze = type.withFrozen true :=
      withFrozen_withFrozen false true type
    rw [← thawed]
    exact spells_enclosed .frozen spelled rfl

/-- The signature of a type spells the type when the name of every handle in it is read as that
handle. -/
theorem spells_signature {type : DataType}
    (spellable : ∀ handle, type.Mentions handle → Spellable lookup handle) :
    Spells lookup type.signature.toList type := by
  induction type with
  | scalar frozen base =>
    have plain : Spells lookup base.keyword.toList (.scalar false base) :=
      .scalar (holdsWord_self (Keyword.scalar base).isWord_text)
        (Keyword.scalar base).sameFolded_text
    exact plain.wrapFrozen (.scalar false base) frozen
  | list frozen item ih =>
    have inner := ih fun handle mentioned => spellable handle (.list mentioned)
    have plain : Spells lookup ("list<" ++ item.signature ++ ">").toList (.list false item) :=
      spells_enclosed .list inner rfl
    exact plain.wrapFrozen (.list false item) frozen
  | set frozen item ih =>
    have inner := ih fun handle mentioned => spellable handle (.set mentioned)
    have plain : Spells lookup ("set<" ++ item.signature ++ ">").toList (.set false item) :=
      spells_enclosed .set inner rfl
    exact plain.wrapFrozen (.set false item) frozen
  | map frozen key value keyIh valueIh =>
    have left := keyIh fun handle mentioned => spellable handle (.mapKey mentioned)
    have right := valueIh fun handle mentioned => spellable handle (.mapValue mentioned)
    have plain := Spells.map (holdsWord_wrapper .map) (Keyword.wrapper .map).sameFolded_text
      (holdsMark_self '<') left (holdsMark_self ',') right (holdsMark_self '>')
    have written : ("map<" ++ key.signature ++ "," ++ value.signature ++ ">").toList =
        Wrapper.map.text.toList ++ ['<'] ++ key.signature.toList ++ [','] ++
          value.signature.toList ++ ['>'] := by
      simp [Wrapper.text]
    rw [← written] at plain
    exact plain.wrapFrozen (.map false key value) frozen
  | user frozen handle =>
    have demands := spellable handle .user
    have plain : Spells lookup handle.name.toList (.user false handle) :=
      .user (holdsWord_self demands.word) demands.free demands.found
    exact plain.wrapFrozen (.user false handle) frozen

/-- Every handle of a spelled type is found under a word that is not reserved. -/
theorem Spells.exists_name {text : List Char} {type : DataType} {handle : Handle}
    (spelled : Spells lookup text type) (mentioned : type.Mentions handle) :
    ∃ word, ¬ IsReserved word ∧ lookup word = some handle := by
  induction spelled with
  | scalar _ _ => cases mentioned
  | list _ _ _ _ _ ih =>
    cases mentioned with
    | list inside => exact ih inside
  | set _ _ _ _ _ ih =>
    cases mentioned with
    | set inside => exact ih inside
  | frozen _ _ _ _ _ ih => exact ih (mentions_freeze.1 mentioned)
  | map _ _ _ _ _ _ _ keyIh valueIh =>
    cases mentioned with
    | mapKey inside => exact keyIh inside
    | mapValue inside => exact valueIh inside
  | user _ free found =>
    cases mentioned with
    | user => exact ⟨_, free, found⟩

end CqlSchema.DataType

namespace CqlSchema.TypeRegistry

open DataType

/-- In a well-formed registry a handle that resolves is read from its name, if that is not
reserved. -/
theorem WellFormed.spellable {registry : TypeRegistry} (laws : registry.WellFormed)
    {handle : Handle} (known : registry.resolves handle = true)
    (free : ¬ IsReserved handle.name) : Spellable registry.lookup handle := by
  obtain ⟨type, found⟩ := Option.isSome_iff_exists.1 known
  have identifier := laws.identifiers type (mem_of_resolve found)
  rw [(resolve_eq_some_iff.1 found).2] at identifier
  exact ⟨isIdentifier_word identifier, free, laws.lookup_of_resolve found⟩

/-- Every handle in a type that a registry reads is found under its own name, which is not
reserved. -/
theorem free_and_found_of_parse {registry : TypeRegistry} {text : String} {type : DataType}
    {handle : Handle} (read : registry.parse text = .ok type)
    (mentioned : type.Mentions handle) :
    ¬ IsReserved handle.name ∧ registry.lookup handle.name = some handle := by
  obtain ⟨word, free, found⟩ := (parse_eq_ok_iff.1 read).exists_name mentioned
  obtain rfl := name_of_lookup found
  exact ⟨free, found⟩

/-- Every handle in a type that a well-formed registry reads resolves there. -/
theorem WellFormed.resolve_of_parse {registry : TypeRegistry} (laws : registry.WellFormed)
    {text : String} {type : DataType} {handle : Handle} (read : registry.parse text = .ok type)
    (mentioned : type.Mentions handle) : ∃ declared, registry.resolve handle = some declared :=
  laws.resolves_of_lookup (free_and_found_of_parse read mentioned).2

/-- The keyword of a scalar is read as that scalar, whatever is declared. -/
theorem parse_keyword (registry : TypeRegistry) (base : Scalar) :
    registry.parse base.keyword = .ok (.scalar false base) := by
  have holds := holdsWord_self (Keyword.isWord_text (.scalar base))
  exact parse_eq_ok_iff.2 (.scalar holds (Keyword.sameFolded_text (.scalar base)))

/-- A registry that declarations build reads the signature of a type over its own types as that
type exactly when no user defined type in it has a reserved name. Whatever it reads from any
text mentions only its own types, and is read again from its signature. -/
theorem signature_round_trip {registry : TypeRegistry} (reachable : registry.Reachable) :
    (∀ type : DataType, (∀ handle, type.Mentions handle → registry.resolves handle = true) →
      (registry.parse type.signature = .ok type ↔
        ∀ handle, type.Mentions handle → ¬ IsReserved handle.name)) ∧
    ∀ (text : String) (type : DataType), registry.parse text = .ok type →
      registry.parse type.signature = .ok type ∧
        ∀ handle, type.Mentions handle → registry.resolves handle = true := by
  have laws := reachable.wellFormed
  have readBack : ∀ type : DataType,
      (∀ handle, type.Mentions handle → registry.resolves handle = true) →
      (∀ handle, type.Mentions handle → ¬ IsReserved handle.name) →
      registry.parse type.signature = .ok type := by
    intro type known free
    rw [parse_eq_ok_iff]
    refine spells_signature fun handle mentioned => ?_
    exact laws.spellable (known handle mentioned) (free handle mentioned)
  constructor
  · intro type known
    constructor
    · intro read handle mentioned
      exact (free_and_found_of_parse read mentioned).1
    · exact readBack type known
  · intro text type read
    -- A name that was read as a handle is not reserved, so the signature is read back.
    have known : ∀ handle, type.Mentions handle → registry.resolves handle = true := by
      intro handle mentioned
      have found := (free_and_found_of_parse read mentioned).2
      exact Option.isSome_iff_exists.2 (laws.resolves_of_lookup found)
    refine ⟨readBack type known fun handle mentioned => ?_, known⟩
    exact (free_and_found_of_parse read mentioned).1

/-- A frozen list of a declared type is read back; a type that is named like a keyword is
not. -/
theorem signatures_beside_reserved_name :
    let registry := (((empty.declare "money" [("units", .scalar false .bigint)]).1).declare
      "List" [("head", .user true ⟨0, "money"⟩)]).1
    registry.parse (DataType.list true (.user false ⟨0, "money"⟩)).signature =
        .ok (.list true (.user false ⟨0, "money"⟩)) ∧
      registry.parse (DataType.user false ⟨1, "List"⟩).signature ≠
        .ok (.user false ⟨1, "List"⟩) := by
  intro registry
  have reachable : registry.Reachable := .declare _ _ (.declare _ _ .empty)
  constructor
  · refine ((signature_round_trip reachable).1 _ ?_).2 ?_
    · intro handle mentioned
      cases mentioned with
      | list inside =>
        cases inside with
        | user => decide
    · intro handle mentioned
      cases mentioned with
      | list inside =>
        cases inside with
        | user => exact ofWord?_eq_none_iff.1 (by decide)
  · intro read
    refine ((signature_round_trip reachable).1 _ ?_).1 read ⟨1, "List"⟩ .user ?_
    · intro handle mentioned
      cases mentioned with
      | user => decide
    · exact ⟨.wrapper .list, by decide⟩

end CqlSchema.TypeRegistry
