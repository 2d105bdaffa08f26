import CqlSchema.TypeRegistry
import CqlSchema.Proofs.DataType.Keyword
import CqlSchema.Proofs.DataType.Lexing
import CqlSchema.Proofs.Outcome
/-!
# Grammar of signatures

`Spells` derives the texts that spell a type, without lexemes, offsets or a stack: a type is a
keyword of a scalar, a wrapper around types, or the name of a user defined type, with any blanks
before and after every token. The reader accepts exactly the texts that can be derived, each
with the type it is derived for.
-/

namespace CqlSchema.DataType

/-- A text that holds one token, with any blanks before and after it. -/
def Padded (token text : List Char) : Prop :=
  ∃ before after, text = before ++ token ++ after ∧ Blanks before ∧ Blanks after

/-- A text that holds one word. -/
def HoldsWord (word : String) (text : List Char) : Prop :=
  IsWord word.toList ∧ Padded word.toList text

/-- A text that holds one mark. -/
def HoldsMark (mark : Char) (text : List Char) : Prop :=
  Padded [mark] text

/-- Texts that spell a type. Keywords may be written in any case, names of user defined types
only as `lookup` finds them. -/
inductive Spells (lookup : String → Option Handle) : List Char → DataType → Prop where
  | scalar {word : String} {text : List Char} {base : Scalar} :
      HoldsWord word text → Text.sameFolded word base.keyword = true →
      Spells lookup text (.scalar false base)
  | list {word : String} {head opening inner closing : List Char} {item : DataType} :
      HoldsWord word head → Text.sameFolded word "list" = true → HoldsMark '<' opening →
      Spells lookup inner item → HoldsMark '>' closing →
      Spells lookup (head ++ opening ++ inner ++ closing) (.list false item)
  | set {word : String} {head opening inner closing : List Char} {item : DataType} :
      HoldsWord word head → Text.sameFolded word "set" = true → HoldsMark '<' opening →
      Spells lookup inner item → HoldsMark '>' closing →
      Spells lookup (head ++ opening ++ inner ++ closing) (.set false item)
  | frozen {word : String} {head opening inner closing : List Char} {type : DataType} :
      HoldsWord word head → Text.sameFolded word "frozen" = true → HoldsMark '<' opening →
      Spells lookup inner type → HoldsMark '>' closing →
      Spells lookup (head ++ opening ++ inner ++ closing) type.freeze
  | map {word : String} {head opening left separator right closing : List Char}
      {key value : DataType} :
      HoldsWord word head → Text.sameFolded word "map" = true → HoldsMark '<' opening →
      Spells lookup left key → HoldsMark ',' separator → Spells lookup right value →
      HoldsMark '>' closing →
      Spells lookup (head ++ opening ++ left ++ separator ++ right ++ closing)
        (.map false key value)
  | user {word : String} {text : List Char} {handle : Handle} :
      HoldsWord word text → ¬ IsReserved word → lookup word = some handle →
      Spells lookup text (.user false handle)

/-- A wrapper around one spelled type spells what its frame makes of that type. -/
theorem Spells.wrapped {lookup : String → Option Handle} (kind : Wrapper) {word : String}
    {head opening inner closing : List Char} {item outer : DataType}
    (spelled : Spells lookup inner item) (holds : HoldsWord word head)
    (same : Text.sameFolded word kind.text = true) (opens : HoldsMark '<' opening)
    (closes : HoldsMark kind.frame.closer closing)
    (received : kind.frame.receive item = .inl outer) :
    Spells lookup (head ++ opening ++ inner ++ closing) outer := by
  cases kind with
  | frozen =>
    cases received
    exact .frozen holds same opens spelled closes
  | list =>
    cases received
    exact .list holds same opens spelled closes
  | set =>
    cases received
    exact .set holds same opens spelled closes
  | map => cases received

/-- The only wrapper that waits for a second type is that of a map. -/
theorem map_of_receive {kind : Wrapper} {item : DataType} {waiting : Frame}
    (received : kind.frame.receive item = .inr waiting) :
    kind = .map ∧ waiting = .mapValue item := by
  cases kind with
  | frozen => cases received
  | list => cases received
  | set => cases received
  | map =>
    cases received
    exact ⟨rfl, rfl⟩

/-! ## Tokens -/

/-- Blanks after a token belong to its text. -/
theorem Padded.append_blanks {token text after : List Char} (padded : Padded token text)
    (blanks : Blanks after) : Padded token (text ++ after) := by
  obtain ⟨before, tail, rfl, front, back⟩ := padded
  refine ⟨before, tail ++ after, by simp, front, ?_⟩
  intro c member
  exact (List.mem_append.1 member).elim (back c) (blanks c)

/-- A text that holds a lexeme starts with that lexeme and leaves what follows the text. -/
theorem cut_padded (lexeme : Lexeme) {text rest : List Char}
    (padded : Padded lexeme.chars text) (stands : lexeme.StandsBefore rest) (offset : Nat) :
    ∃ place, Lexeme.cut offset (text ++ rest) =
      ⟨place, lexeme⟩ :: Lexeme.cut (offset + Lexeme.bytes text) rest := by
  obtain ⟨before, after, rfl, front, back⟩ := padded
  refine ⟨offset + Lexeme.bytes before, ?_⟩
  rw [List.append_assoc, Lexeme.cut_lexeme front (stands.blanks_append back),
    Lexeme.cut_blanks back]
  simp only [Lexeme.bytes_append, Nat.add_assoc]

/-- A text that holds a word starts with it. -/
theorem HoldsWord.cut {word : String} {text rest : List Char} (holds : HoldsWord word text)
    (ends : EndsWord rest) (offset : Nat) :
    ∃ place, Lexeme.cut offset (text ++ rest) =
      ⟨place, .word word⟩ :: Lexeme.cut (offset + Lexeme.bytes text) rest :=
  cut_padded (.word word) holds.2 ⟨holds.1, ends⟩ offset

/-- The marks of a signature. -/
def IsMark (mark : Char) : Prop :=
  isWordChar mark = false ∧ Text.isBlank mark = false

/-- A text that holds a mark starts with it. -/
theorem HoldsMark.cut {mark : Char} {text : List Char} (holds : HoldsMark mark text)
    (isMark : IsMark mark) (rest : List Char) (offset : Nat) :
    ∃ place, Lexeme.cut offset (text ++ rest) =
      ⟨place, .mark mark⟩ :: Lexeme.cut (offset + Lexeme.bytes text) rest :=
  cut_padded (.mark mark) holds isMark offset

/-- A mark ends the word before it. -/
theorem HoldsMark.endsWord {mark : Char} {text : List Char} (holds : HoldsMark mark text)
    (isMark : IsMark mark) (rest : List Char) : EndsWord (text ++ rest) := by
  obtain ⟨before, after, rfl, front, -⟩ := holds
  have ends : EndsWord ([mark] ++ (after ++ rest)) := by
    intro c head
    obtain rfl := Option.some.inj head
    exact isMark.1
  have whole := ends.blanks_append front
  simpa using whole

/-- The bracket that opens a wrapper is a mark. -/
theorem isMark_opener : IsMark '<' :=
  ⟨by decide, by decide⟩

/-- What follows a type inside a frame is a mark. -/
theorem isMark_closer (frame : Frame) : IsMark frame.closer := by
  have bracket : IsMark '>' := ⟨by decide, by decide⟩
  cases frame with
  | mapKey => exact ⟨by decide, by decide⟩
  | frozen => exact bracket
  | list => exact bracket
  | set => exact bracket
  | mapValue key => exact bracket

/-! ## Texts that are spelled are read -/

variable {lookup : String → Option Handle} {finish : Nat}

/-- A word that is a wrapper, with the bracket after it, opens the frame of that wrapper. -/
theorem readType_wrapper (kind : Wrapper) {word : String} {head opening : List Char}
    (holds : HoldsWord word head) (spelled : Text.sameFolded word kind.text = true)
    (opens : HoldsMark '<' opening) (frames : List Frame) (offset : Nat) (rest : List Char) :
    readType lookup finish frames (Lexeme.cut offset (head ++ (opening ++ rest))) =
      readType lookup finish (kind.frame :: frames)
        (Lexeme.cut (offset + Lexeme.bytes (head ++ opening)) rest) := by
  obtain ⟨place, atWord⟩ := holds.cut (opens.endsWord isMark_opener rest) offset
  obtain ⟨next, atMark⟩ := opens.cut isMark_opener rest (offset + Lexeme.bytes head)
  have recognised : Keyword.ofWord? word = some (.wrapper kind) :=
    Keyword.ofWord?_eq_some_iff.2 spelled
  rw [atWord, atMark, readType, recognised]
  simp only [openWrapper, ↓reduceIte, Lexeme.bytes_append, Nat.add_assoc]

/-- The mark that a frame waits for finishes the type of that frame. -/
theorem closeType_closer (frame : Frame) {type outer : DataType} {closing : List Char}
    (received : frame.receive type = .inl outer) (closes : HoldsMark frame.closer closing)
    (frames : List Frame) (offset : Nat) (rest : List Char) :
    closeType lookup finish type (frame :: frames) (Lexeme.cut offset (closing ++ rest)) =
      closeType lookup finish outer frames
        (Lexeme.cut (offset + Lexeme.bytes closing) rest) := by
  obtain ⟨place, atMark⟩ := closes.cut (isMark_closer frame) rest offset
  rw [atMark, closeType, if_pos rfl, received]

/-- The comma after the key of a map starts its value. -/
theorem closeType_comma {key : DataType} {separator : List Char}
    (parts : HoldsMark ',' separator) (frames : List Frame) (offset : Nat)
    (rest : List Char) :
    closeType lookup finish key (.mapKey :: frames) (Lexeme.cut offset (separator ++ rest)) =
      readType lookup finish (.mapValue key :: frames)
        (Lexeme.cut (offset + Lexeme.bytes separator) rest) := by
  obtain ⟨place, atMark⟩ := parts.cut (isMark_closer .mapKey) rest offset
  have awaited : Lexeme.mark ',' = .mark Frame.mapKey.closer := rfl
  rw [atMark, closeType, if_pos awaited]
  simp only [Frame.receive]

/-- Reading a text inside any frames, before any text that ends its last word, goes on with the
given type. -/
def ReadsAs (lookup : String → Option Handle) (finish : Nat) (text : List Char)
    (type : DataType) : Prop :=
  ∀ (frames : List Frame) (offset : Nat) (rest : List Char), EndsWord rest →
    readType lookup finish frames (Lexeme.cut offset (text ++ rest)) =
      closeType lookup finish type frames (Lexeme.cut (offset + Lexeme.bytes text) rest)

/-- A wrapper around one type is read as what its frame makes of that type. -/
theorem ReadsAs.wrapped (kind : Wrapper) {word : String}
    {head opening inner closing : List Char} {item outer : DataType}
    (reads : ReadsAs lookup finish inner item) (holds : HoldsWord word head)
    (spelled : Text.sameFolded word kind.text = true) (opens : HoldsMark '<' opening)
    (closes : HoldsMark kind.frame.closer closing)
    (received : kind.frame.receive item = .inl outer) :
    ReadsAs lookup finish (head ++ opening ++ inner ++ closing) outer := by
  intro frames offset rest _
  have ends := closes.endsWord (isMark_closer kind.frame) rest
  rw [List.append_assoc, List.append_assoc, List.append_assoc,
    readType_wrapper kind holds spelled opens, reads _ _ _ ends, closeType_closer _ received closes]
  simp only [Lexeme.bytes_append, Nat.add_assoc]

/-- A map is read as the map of its two types. -/
theorem ReadsAs.map {word : String} {head opening left separator right closing : List Char}
    {key value : DataType} (keyReads : ReadsAs lookup finish left key)
    (valueReads : ReadsAs lookup finish right value) (holds : HoldsWord word head)
    (spelled : Text.sameFolded word "map" = true) (opens : HoldsMark '<' opening)
    (parts : HoldsMark ',' separator) (closes : HoldsMark '>' closing) :
    ReadsAs lookup finish (head ++ opening ++ left ++ separator ++ right ++ closing)
      (.map false key value) := by
  intro frames offset rest _
  have keyEnds := parts.endsWord (isMark_closer .mapKey) (right ++ (closing ++ rest))
  have valueEnds := closes.endsWord (isMark_closer (.mapValue key)) rest
  rw [List.append_assoc, List.append_assoc, List.append_assoc, List.append_assoc,
    List.append_assoc, readType_wrapper .map holds spelled opens,
    keyReads _ _ _ keyEnds]
  rw [show Wrapper.map.frame = .mapKey from rfl, closeType_comma parts,
    valueReads _ _ _ valueEnds, closeType_closer (.mapValue key) rfl closes]
  simp only [Lexeme.bytes_append, Nat.add_assoc]

/-- A spelled type is read as that type. -/
theorem readsAs_of_spells {text : List Char} {type : DataType}
    (spelled : Spells lookup text type) : ReadsAs lookup finish text type := by
  induction spelled with
  | @scalar word text base holds same =>
    intro frames offset rest ends
    obtain ⟨place, atWord⟩ := holds.cut ends offset
    have recognised : Keyword.ofWord? word = some (.scalar base) :=
      Keyword.ofWord?_eq_some_iff.2 same
    rw [atWord, readType, recognised]
  | list holds same opens _ closes ih =>
    exact ih.wrapped .list holds same opens closes rfl
  | set holds same opens _ closes ih =>
    exact ih.wrapped .set holds same opens closes rfl
  | frozen holds same opens _ closes ih =>
    exact ih.wrapped .frozen holds same opens closes rfl
  | map holds same opens _ parts _ closes keyIh valueIh =>
    exact keyIh.map valueIh holds same opens parts closes
  | user holds free found =>
    intro frames offset rest ends
    obtain ⟨place, atWord⟩ := holds.cut ends offset
    rw [atWord, readType, ofWord?_eq_none_iff.2 free]
    simp only [found]

/-- A whole text that spells a type is read as that type. -/
theorem parse_of_spells {text : String} {type : DataType}
    (spelled : Spells lookup text.toList type) : parse lookup text = .ok type := by
  have reads : ReadsAs lookup text.utf8ByteSize text.toList type := readsAs_of_spells spelled
  have read := reads [] 0 [] endsWord_nil
  rw [List.append_nil] at read
  rw [parse, Lexeme.ofText, read, Lexeme.cut, closeType]

/-! ## Texts that are read are spelled -/

/-- A text with a first lexeme starts by holding that lexeme, and the others are cut from what
follows. -/
theorem exists_token {offset place : Nat} {text : List Char} {lexeme : Lexeme}
    {later : List Placed} (shape : Lexeme.cut offset text = ⟨place, lexeme⟩ :: later) :
    ∃ head rest next, text = head ++ rest ∧ Padded lexeme.chars head ∧
      lexeme.StandsBefore rest ∧ later = Lexeme.cut next rest ∧ rest.length < text.length := by
  obtain ⟨before, rest, rfl, blanks, stands, -, rfl⟩ := Lexeme.cut_eq_cons shape
  have nonempty := List.length_pos_iff.2 stands.chars_ne_nil
  refine ⟨before ++ lexeme.chars, rest, _, rfl, ⟨before, [], by simp, blanks, by simp [Blanks]⟩,
    stands, rfl, ?_⟩
  simp only [List.length_append]
  omega

/-- A wrapper that is read is followed by an opening bracket and a type inside its frame. -/
theorem exists_opening {kind : Wrapper} {frames : List Frame} {offset : Nat} {text : List Char}
    {result : DataType}
    (read : openWrapper lookup finish kind frames (Lexeme.cut offset text) = .ok result) :
    ∃ opening rest next, text = opening ++ rest ∧ HoldsMark '<' opening ∧
      rest.length < text.length ∧
      readType lookup finish (kind.frame :: frames) (Lexeme.cut next rest) = .ok result := by
  cases shape : Lexeme.cut offset text with
  | nil =>
    rw [shape, openWrapper] at read
    cases read
  | cons placed later =>
    obtain ⟨place, lexeme⟩ := placed
    rw [shape, openWrapper] at read
    split at read
    · rename_i bracket
      subst bracket
      obtain ⟨opening, rest, next, split, holds, -, rfl, shorter⟩ := exists_token shape
      exact ⟨opening, rest, next, split, holds, shorter, read⟩
    · cases read

/-- A type that is read inside a frame is followed by the mark that the frame waits for, and by
what that frame goes on with. -/
theorem exists_closing {frame : Frame} {type : DataType} {frames : List Frame} {offset : Nat}
    {text : List Char} {result : DataType}
    (read : closeType lookup finish type (frame :: frames) (Lexeme.cut offset text) =
      .ok result) :
    ∃ closing rest next, text = closing ++ rest ∧ HoldsMark frame.closer closing ∧
      rest.length < text.length ∧
      (∀ outer, frame.receive type = .inl outer →
        closeType lookup finish outer frames (Lexeme.cut next rest) = .ok result) ∧
      (∀ waiting, frame.receive type = .inr waiting →
        readType lookup finish (waiting :: frames) (Lexeme.cut next rest) = .ok result) := by
  cases shape : Lexeme.cut offset text with
  | nil =>
    rw [shape, closeType] at read
    cases read
  | cons placed later =>
    obtain ⟨place, lexeme⟩ := placed
    rw [shape, closeType] at read
    split at read
    · rename_i awaited
      subst awaited
      obtain ⟨closing, rest, next, split, holds, -, rfl, shorter⟩ := exists_token shape
      refine ⟨closing, rest, next, split, holds, shorter, ?_, ?_⟩
      · intro outer received
        rw [received] at read
        exact read
      · intro waiting received
        rw [received] at read
        exact read
    · cases read

/-- The front of a text spells a type, and the reader goes on with it on what follows. -/
def StartsSpelled (lookup : String → Option Handle) (finish : Nat) (frames : List Frame)
    (text : List Char) (result : DataType) : Prop :=
  ∃ front rest next type, text = front ++ rest ∧ Spells lookup front type ∧
    rest.length < text.length ∧
    closeType lookup finish type frames (Lexeme.cut next rest) = .ok result

/-- What is read after the word of a wrapper spells, with that word, a type. Types inside the
brackets are those of shorter texts. -/
theorem exists_wrapped {kind : Wrapper} {frames : List Frame} {offset : Nat} {body : List Char}
    {result : DataType}
    (shorter : ∀ {frames offset text}, text.length < body.length →
      readType lookup finish frames (Lexeme.cut offset text) = .ok result →
      StartsSpelled lookup finish frames text result)
    (read : openWrapper lookup finish kind frames (Lexeme.cut offset body) = .ok result) :
    ∃ brackets rest next type, body = brackets ++ rest ∧
      (∀ word head, HoldsWord word head → Text.sameFolded word kind.text = true →
        Spells lookup (head ++ brackets) type) ∧
      rest.length < body.length ∧
      closeType lookup finish type frames (Lexeme.cut next rest) = .ok result := by
  obtain ⟨opening, inside, afterOpening, rfl, opens, insideShorter, readInside⟩ :=
    exists_opening read
  obtain ⟨inner, tail, afterInner, item, rfl, spelled, tailShorter, readTail⟩ :=
    shorter insideShorter readInside
  obtain ⟨closing, rest, next, rfl, closes, restShorter, finished, waits⟩ :=
    exists_closing readTail
  have less := Nat.lt_trans restShorter (Nat.lt_trans tailShorter insideShorter)
  cases received : kind.frame.receive item with
  | inl outer =>
    refine ⟨opening ++ inner ++ closing, rest, next, outer, by simp only [List.append_assoc], ?_,
      less, finished outer received⟩
    intro word head holds same
    have spelledOuter := spelled.wrapped kind holds same opens closes received
    simpa only [List.append_assoc] using spelledOuter
  | inr waiting =>
    -- Only the key of a map leaves its wrapper open.
    obtain ⟨rfl, rfl⟩ := map_of_receive received
    obtain ⟨right, last, afterValue, value, rfl, valueSpelled, lastShorter, readLast⟩ :=
      shorter less (waits _ rfl)
    obtain ⟨bracket, final, afterMap, rfl, ends, finalShorter, mapFinished, -⟩ :=
      exists_closing readLast
    refine ⟨opening ++ inner ++ closing ++ right ++ bracket, final, afterMap, _,
      by simp only [List.append_assoc], ?_, by omega, mapFinished _ rfl⟩
    intro word head holds same
    have spelledMap := Spells.map holds same opens spelled closes valueSpelled ends
    simpa only [List.append_assoc] using spelledMap

/-- What is read inside any frames starts with the spelling of a type. The induction is on the
length of the text, since the type inside a wrapper is read before the wrapper is closed. -/
theorem startsSpelled_of_read {frames : List Frame} {offset : Nat} {text : List Char}
    {result : DataType}
    (read : readType lookup finish frames (Lexeme.cut offset text) = .ok result) :
    StartsSpelled lookup finish frames text result := by
  induction measure : text.length using Nat.strong_induction_on
    generalizing frames offset text with
  | _ bound ih =>
    cases shape : Lexeme.cut offset text with
    | nil =>
      rw [shape, readType] at read
      cases read
    | cons placed later =>
      obtain ⟨place, lexeme⟩ := placed
      cases lexeme with
      | mark mark =>
        rw [shape, readType] at read
        cases read
      | word word =>
        obtain ⟨head, body, afterHead, rfl, padded, stands, rfl, bodyShorter⟩ :=
          exists_token shape
        have holds : HoldsWord word head := ⟨stands.1, padded⟩
        rw [shape, readType] at read
        cases recognised : Keyword.ofWord? word with
        | none =>
          rw [recognised] at read
          cases found : lookup word with
          | none =>
            simp only [found] at read
            cases read
          | some handle =>
            simp only [found] at read
            have free := ofWord?_eq_none_iff.1 recognised
            exact ⟨head, body, _, _, rfl, .user holds free found, bodyShorter, read⟩
        | some keyword =>
          have same := Keyword.ofWord?_eq_some_iff.1 recognised
          cases keyword with
          | scalar base =>
            simp only [recognised] at read
            exact ⟨head, body, _, _, rfl, .scalar holds same, bodyShorter, read⟩
          | wrapper kind =>
            simp only [recognised] at read
            have shorter : ∀ {frames offset text}, text.length < body.length →
                readType lookup finish frames (Lexeme.cut offset text) = .ok result →
                StartsSpelled lookup finish frames text result := by
              intro frames offset text less readText
              exact ih text.length (by omega) readText rfl
            obtain ⟨brackets, rest, next, type, rfl, spelled, restShorter, readRest⟩ :=
              exists_wrapped shorter read
            exact ⟨head ++ brackets, rest, next, type, (List.append_assoc ..).symm,
              spelled word head holds same, by omega, readRest⟩

/-- Blanks after a spelled type belong to its text. -/
theorem Spells.append_blanks {text after : List Char} {type : DataType}
    (spelled : Spells lookup text type) (blanks : Blanks after) :
    Spells lookup (text ++ after) type := by
  cases spelled with
  | scalar holds same => exact .scalar ⟨holds.1, holds.2.append_blanks blanks⟩ same
  | list holds same opens inner closes =>
    rw [List.append_assoc]
    exact .list holds same opens inner (closes.append_blanks blanks)
  | set holds same opens inner closes =>
    rw [List.append_assoc]
    exact .set holds same opens inner (closes.append_blanks blanks)
  | frozen holds same opens inner closes =>
    rw [List.append_assoc]
    exact .frozen holds same opens inner (closes.append_blanks blanks)
  | map holds same opens key parts value closes =>
    rw [List.append_assoc]
    exact .map holds same opens key parts value (closes.append_blanks blanks)
  | user holds free found => exact .user ⟨holds.1, holds.2.append_blanks blanks⟩ free found

/-- A whole text that is read spells the type it is read as. -/
theorem spells_of_parse {text : String} {type : DataType}
    (read : parse lookup text = .ok type) : Spells lookup text.toList type := by
  rw [parse, Lexeme.ofText] at read
  obtain ⟨front, rest, next, item, split, spelled, -, readRest⟩ := startsSpelled_of_read read
  rw [split]
  cases shape : Lexeme.cut next rest with
  | nil =>
    rw [shape, closeType] at readRest
    cases readRest
    exact spelled.append_blanks (Lexeme.blanks_of_cut shape)
  | cons placed later =>
    rw [shape, closeType] at readRest
    cases readRest

/-- Reading a text gives a type exactly when the text spells it. -/
theorem parse_eq_ok_iff {text : String} {type : DataType} :
    parse lookup text = .ok type ↔ Spells lookup text.toList type :=
  ⟨spells_of_parse, parse_of_spells⟩

/-- A text spells at most one type. -/
theorem Spells.unique {text : List Char} {first second : DataType}
    (left : Spells lookup text first) (right : Spells lookup text second) : first = second := by
  have written : (String.ofList text).toList = text := String.toList_ofList
  rw [← written] at left right
  have read := parse_of_spells left
  rw [parse_of_spells right] at read
  cases read
  rfl

end CqlSchema.DataType

namespace CqlSchema.TypeRegistry

open DataType

/-- A registry reads a text as a type exactly when the reader does so with its names. -/
theorem parse_eq_ok_iff {registry : TypeRegistry} {text : String} {type : DataType} :
    registry.parse text = .ok type ↔ Spells registry.lookup text.toList type := by
  rw [← DataType.parse_eq_ok_iff, parse, Outcome.mapError_eq_ok]

/-- A registry reads exactly the texts that spell a type with the names it declares, each as the
only type that it spells. -/
theorem reads_exactly_spelled (registry : TypeRegistry) :
    (∀ (text : String) (type : DataType),
      registry.parse text = .ok type ↔ Spells registry.lookup text.toList type) ∧
    ∀ (text : String) (first second : DataType), Spells registry.lookup text.toList first →
      Spells registry.lookup text.toList second → first = second := by
  constructor
  · intro text type
    exact parse_eq_ok_iff
  · intro text first second left right
    exact left.unique right

/-- Case matters for names only, and freezing a frozen type changes nothing. -/
example : (⟨[⟨0, "money", [("units", .scalar false .bigint)]⟩]⟩ : TypeRegistry).parse
    " Map<TEXT ,\tfrozen< FROZEN<money> >>" =
      .ok (.map false (.scalar false .text) (.user true ⟨0, "money"⟩)) := by
  decide +kernel

end CqlSchema.TypeRegistry
