import CqlSchema.Proofs.DataType.RoundTrip
import CqlSchema.Proofs.DataType.Stand
import CqlSchema.SchemaError
/-!
# Where a text stops being a signature

A fault names the byte offset up to which the text can be gone on with to a signature, and beyond
which it cannot. The only other fault is a word that names no type, in a place where every signature
could stand. Up to the offset the reader has reached a stand, from which a text leads to a type; the
next character is one that the stand does not await, whatever follows it.
-/

namespace CqlSchema.DataType

open Lexeme Outcome

/-- Byte offset that a fault names; an unknown name has none. -/
def SignatureFault.offset? : SignatureFault → Option Nat
  | .typeNameExpected offset => some offset
  | .markExpected _ offset => some offset
  | .trailingInput offset => some offset
  | .unknownName _ => none

/-- The fault of a stand names the offset at which it arises. -/
theorem Stand.offset?_faultAt (stand : Stand) (offset : Nat) :
    (stand.faultAt offset).offset? = some offset := by
  cases stand with
  | typeDue frames => rfl
  | bracketDue kind frames => rfl
  | complete type frames =>
    cases frames with
    | nil => rfl
    | cons frame frames => rfl

/-- The wording of a fault ends in the offset that it names. -/
theorem SignatureFault.reason_of_offset? {fault : SignatureFault} {offset : Nat}
    (named : fault.offset? = some offset) :
    ∃ front, fault.reason = front ++ " at offset " ++ toString offset := by
  cases fault with
  | typeNameExpected place =>
    obtain rfl := Option.some.inj named
    have parts : "expected a type name at offset " = "expected a type name" ++ " at offset " := by
      decide
    exact ⟨_, congrArg (· ++ toString place) parts⟩
  | markExpected mark place =>
    obtain rfl := Option.some.inj named
    have parts : "' at offset " = "'" ++ " at offset " := by decide
    refine ⟨"expected '" ++ toString mark ++ "'", ?_⟩
    show "expected '" ++ toString mark ++ "' at offset " ++ toString place = _
    rw [parts, ← String.append_assoc]
  | trailingInput place =>
    obtain rfl := Option.some.inj named
    have parts : "unexpected trailing input at offset " =
        "unexpected trailing input" ++ " at offset " := by decide
    exact ⟨_, congrArg (· ++ toString place) parts⟩
  | unknownName word => cases named

variable {lookup : String → Option Handle} {finish : Nat}

/-! ## Texts that lead on to a type -/

/-- Text of the simplest type. -/
def plainText : List Char := "int".toList

/-- Every registry reads the simplest type from its text. -/
theorem spells_plainText : Spells lookup plainText (.scalar false .int) :=
  .scalar (holdsWord_self (Keyword.scalar .int).isWord_text) (Keyword.scalar .int).sameFolded_text

/-- Text that closes a frame behind the type inside it. -/
def Frame.closing : Frame → List Char
  | .mapKey => [','] ++ plainText ++ ['>']
  | _ => ['>']

/-- Text that closes frames behind the type inside the innermost of them. -/
def closings (frames : List Frame) : List Char :=
  frames.flatMap Frame.closing

/-- A text that closes frames ends the word before it. -/
theorem endsWord_closings (frames : List Frame) : EndsWord (closings frames) := by
  cases frames with
  | nil => exact endsWord_nil
  | cons frame frames =>
    have closer := isMark_closer frame
    cases frame with
    | mapKey => exact (holdsMark_self ',').endsWord closer (plainText ++ ['>'] ++ closings frames)
    | frozen => exact (holdsMark_self '>').endsWord closer (closings frames)
    | list => exact (holdsMark_self '>').endsWord closer (closings frames)
    | set => exact (holdsMark_self '>').endsWord closer (closings frames)
    | mapValue key => exact (holdsMark_self '>').endsWord closer (closings frames)

/-- A type becomes a complete one when all frames around it are closed. -/
theorem exists_closeType_closings (type : DataType) (frames : List Frame) (offset : Nat) :
    ∃ result, closeType lookup finish type frames (cut offset (closings frames)) = .ok result := by
  induction frames generalizing type offset with
  | nil => exact ⟨type, by rw [closings, List.flatMap_nil, cut, closeType]⟩
  | cons frame frames ih =>
    -- All frames but the key of a map are closed by one mark.
    have closed : ∀ (frame : Frame) (type outer : DataType) (offset : Nat),
        frame.receive type = .inl outer → ∃ result, closeType lookup finish type (frame :: frames)
          (cut offset ([frame.closer] ++ closings frames)) = .ok result := by
      intro frame type outer offset received
      rw [closeType_closer frame received (holdsMark_self _)]
      exact ih outer _
    cases frame with
    | frozen => exact closed .frozen type _ offset rfl
    | list => exact closed .list type _ offset rfl
    | set => exact closed .set type _ offset rfl
    | mapValue key => exact closed (.mapValue key) type _ offset rfl
    | mapKey =>
      have ends := (holdsMark_self '>').endsWord (isMark_closer (.mapValue type)) (closings frames)
      have inner : ReadsAs lookup finish plainText (.scalar false .int) :=
        readsAs_of_spells spells_plainText
      show ∃ result, closeType lookup finish type (.mapKey :: frames)
        (cut offset ([','] ++ plainText ++ ['>'] ++ closings frames)) = .ok result
      rw [List.append_assoc, List.append_assoc, closeType_comma (holdsMark_self ','),
        inner _ _ _ ends]
      exact closed (.mapValue type) _ _ _ rfl

/-- Where a type is due, any text that spells one may stand. -/
theorem exists_readType_closings (finish : Nat) {inner : List Char} {type : DataType}
    (spelled : Spells lookup inner type) (frames : List Frame) (offset : Nat) :
    ∃ result, readType lookup finish frames (cut offset (inner ++ closings frames)) =
      .ok result := by
  rw [readsAs_of_spells spelled _ _ _ (endsWord_closings frames)]
  exact exists_closeType_closings type frames _

namespace Stand

/-- Text that leads from a stand to a type. -/
def completion : Stand → List Char
  | .typeDue frames => [' '] ++ (plainText ++ closings frames)
  | .bracketDue kind frames => ['<'] ++ (plainText ++ closings (kind.frame :: frames))
  | .complete _ frames => closings frames

/-- The text that leads from a stand to a type ends the word before it. -/
theorem endsWord_completion (stand : Stand) : EndsWord stand.completion := by
  cases stand with
  | typeDue frames =>
    intro c head
    obtain rfl : ' ' = c := Option.some.inj head
    decide
  | bracketDue kind frames => exact (holdsMark_self '<').endsWord isMark_opener _
  | complete type frames => exact endsWord_closings frames

/-- From every stand a text leads to a type. -/
theorem exists_read_completion (lookup : String → Option Handle) (finish : Nat) (stand : Stand)
    (offset : Nat) :
    ∃ type, stand.read lookup finish (cut offset stand.completion) = .ok type := by
  cases stand with
  | typeDue frames =>
    have blank : Blanks [' '] := by
      intro c member
      obtain rfl := List.mem_singleton.1 member
      decide
    rw [completion, cut_blanks blank]
    exact exists_readType_closings finish spells_plainText frames _
  | bracketDue kind frames =>
    obtain ⟨place, opened⟩ := (holdsMark_self '<').cut isMark_opener
      (plainText ++ closings (kind.frame :: frames)) offset
    rw [completion, opened, read_cons]
    exact exists_readType_closings finish spells_plainText (kind.frame :: frames) _
  | complete type frames => exact exists_closeType_closings type frames offset

/-! ## Stands that a text reaches -/

/-- The lexemes of a text lead the reader to a stand. -/
def Reached (lookup : String → Option Handle) (text : List Char) (stand : Stand) : Prop :=
  (cut 0 text).foldlM (step lookup) (.typeDue []) = .ok stand

/-- A text that reaches a stand is read on from there. -/
theorem Reached.parse_append {front : String} {stand : Stand}
    (reached : Reached lookup front.toList stand) {more : String}
    (apart : Apart front.toList more.toList) :
    parse lookup (front ++ more) = stand.read lookup (front ++ more).utf8ByteSize
      (cut (bytes front.toList) more.toList) := by
  have lexemes : ofText (front ++ more) =
      cut 0 front.toList ++ cut (bytes front.toList) more.toList := by
    rw [ofText, String.toList_append, cut_append apart, Nat.zero_add]
  show (Stand.typeDue []).read lookup _ _ = _
  rw [lexemes, read_append reached]

/-- Every text that reaches a stand can be gone on with to a signature. -/
theorem Reached.exists_parse {front : String} {stand : Stand}
    (reached : Reached lookup front.toList stand) :
    ∃ more type, parse lookup (front ++ more) = .ok type := by
  have written : (String.ofList stand.completion).toList = stand.completion := String.toList_ofList
  have apart : Apart front.toList (String.ofList stand.completion).toList := by
    rw [written]
    exact fun _ _ _ => stand.endsWord_completion
  obtain ⟨type, read⟩ := exists_read_completion lookup
    (front ++ String.ofList stand.completion).utf8ByteSize stand (bytes front.toList)
  refine ⟨String.ofList stand.completion, type, ?_⟩
  rw [reached.parse_append apart, written, read]

/-- A character that a stand does not await ends every way on to a signature. -/
theorem Reached.parse_ne_ok {front : String} {stand : Stand} {c : Char}
    (reached : Reached lookup front.toList stand) (apart : Apart front.toList [c])
    (notBlank : Text.isBlank c = false) (refused : ¬ stand.Awaits c) (more : String)
    (type : DataType) : parse lookup (front ++ String.singleton c ++ more) ≠ .ok type := by
  have written : (String.singleton c ++ more).toList = c :: more.toList := by simp
  obtain ⟨lexeme, later, first, starts⟩ := exists_first notBlank (bytes front.toList) more.toList
  have stops : stand.step lookup ⟨bytes front.toList, lexeme⟩ = .error (stand.faultAt _) :=
    (step_eq_error starts).2 (.inl ⟨refused, rfl⟩)
  rw [String.append_assoc, reached.parse_append (by rw [written]; exact apart), written, first,
    read_cons, stops]
  intro read
  cases read

end Stand

/-! ## Places of faults -/

/-- A text is refused at a stand that a front of it reaches: there the text ends, or it goes on
with a character that the stand does not await. -/
def RefusedAt (lookup : String → Option Handle) (text : List Char) (fault : SignatureFault) :
    Prop :=
  ∃ front rest stand, text = front ++ rest ∧ Stand.Reached lookup front stand ∧
    fault = stand.faultAt (bytes front) ∧
    ∀ c, rest.head? = some c →
      Apart front [c] ∧ Text.isBlank c = false ∧ ¬ stand.Awaits c

/-- A text is refused for a word that names no type, where a front of it reaches a stand at which a
type is due. -/
def RefusedFor (lookup : String → Option Handle) (text : List Char) (fault : SignatureFault) :
    Prop :=
  ∃ front word rest frames, text = front ++ word.toList ++ rest ∧
    Stand.Reached lookup front (.typeDue frames) ∧ (∀ other, Apart front other) ∧
    IsWord word.toList ∧ EndsWord rest ∧ ¬ IsReserved word ∧ lookup word = none ∧
    fault = .unknownName word

/-- A text that is refused is refused at a stand or for a word. -/
theorem refused_of_parse {text : String} {fault : SignatureFault}
    (failed : parse lookup text = .error fault) :
    RefusedAt lookup text.toList fault ∨ RefusedFor lookup text.toList fault := by
  have read : (Stand.typeDue []).read lookup text.utf8ByteSize (ofText text) = .error fault :=
    failed
  rw [Stand.read_eq, bind_eq_error, foldlM_eq_error] at read
  rcases read with ⟨before, placed, after, stand, shape, reached, stopped⟩ | ⟨stand, reached, ended⟩
  · obtain ⟨front, rest, split, apart, rfl, first, start⟩ := exists_split shape
    rw [Nat.zero_add] at first
    cases rest with
    | nil => rw [cut] at first; cases first
    | cons c tail =>
      obtain ⟨lexeme, later, same, starts⟩ := exists_first (start c rfl) (bytes front) tail
      obtain ⟨rfl, -⟩ := List.cons.inj (same.symm.trans first)
      rcases (Stand.step_eq_error starts).1 stopped with
        ⟨refused, rfl⟩ | ⟨frames, word, rfl, isWord, free, unknown, rfl⟩
      · refine .inl ⟨front, c :: tail, stand, split, reached, rfl, fun d head => ?_⟩
        obtain rfl := Option.some.inj head
        exact ⟨apart, start c rfl, refused⟩
      · obtain rfl : lexeme = .word word := isWord
        obtain ⟨blank, rest, inText, blanks, stands, -, -⟩ := cut_eq_cons first
        obtain rfl : blank = [] := by
          cases blank with
          | nil => rfl
          | cons d blank =>
            obtain ⟨rfl, -⟩ := List.cons.inj inText
            have blankFirst := blanks c List.mem_cons_self
            rw [start c rfl] at blankFirst
            cases blankFirst
        refine .inr ⟨front, word, rest, frames, ?_, reached, apart.of_word starts.2, stands.1,
          stands.2, free, unknown, rfl⟩
        rw [split, inText, List.nil_append, List.append_assoc]
        rfl
  · refine .inl ⟨text.toList, [], stand, (List.append_nil _).symm, reached, ?_, by simp⟩
    rw [Stand.fault_of_ending ended, bytes_toList]

end CqlSchema.DataType

namespace CqlSchema.TypeRegistry

open DataType Outcome

/-- A text can be gone on with to a signature. -/
def Begins (registry : TypeRegistry) (text : String) : Prop :=
  ∃ more type, registry.parse (text ++ more) = .ok type

/-- A word is written between two texts in the place of a type. -/
structure InTypePlace (registry : TypeRegistry) (front word rest : String) : Prop where
  /-- It is a word. -/
  isWord : IsWord word.toList
  /-- It does not go on to the left. -/
  starts : Lexeme.Apart front.toList word.toList
  /-- It does not go on to the right. -/
  ends : EndsWord rest.toList
  /-- Every signature may stand in its place. -/
  replaced : ∀ signature type, registry.parse signature = .ok type →
    registry.Begins (front ++ signature)

/-- A text has a word in the place of a type that is no keyword and no name of a declared type. -/
structure Misnames (registry : TypeRegistry) (text word : String) : Prop where
  /-- The word stands in the place of a type. -/
  placed : ∃ front rest, text = front ++ word ++ rest ∧ registry.InTypePlace front word rest
  /-- It is no keyword. -/
  free : ¬ IsReserved word
  /-- No type is declared under it. -/
  unknown : ∀ type ∈ registry.types, type.name ≠ word

/-- A text goes on to a signature from an offset between two of its characters, but not from the
character behind that offset. -/
def BreaksAt (registry : TypeRegistry) (text : String) (offset : Nat) : Prop :=
  ∃ front rest, text = front ++ rest ∧ front.utf8ByteSize = offset ∧ registry.Begins front ∧
    ∀ c, rest.toList.head? = some c → ¬ registry.Begins (front ++ String.singleton c)

variable {registry : TypeRegistry}

/-- A text that reaches a stand can be gone on with to a signature. -/
theorem begins_of_reached {front : String} {stand : Stand}
    (reached : Stand.Reached registry.lookup front.toList stand) : registry.Begins front := by
  obtain ⟨more, type, read⟩ := reached.exists_parse
  exact ⟨more, type, mapError_eq_ok.2 read⟩

/-- A text that is refused at a stand breaks at the offset of the fault. -/
theorem breaksAt_of_refusedAt {text : String} {fault : SignatureFault}
    (refused : RefusedAt registry.lookup text.toList fault) :
    ∃ offset, fault.offset? = some offset ∧ registry.BreaksAt text offset := by
  obtain ⟨front, rest, stand, split, reached, rfl, stops⟩ := refused
  have reachedByText : Stand.Reached registry.lookup (String.ofList front).toList stand := by
    rwa [String.toList_ofList]
  refine ⟨_, stand.offset?_faultAt _, String.ofList front, String.ofList rest, ?_, ?_,
    begins_of_reached reachedByText, ?_⟩
  · rw [← String.ofList_append, ← split, String.ofList_toList]
  · rw [← Lexeme.bytes_toList, String.toList_ofList]
  · rintro c head ⟨more, type, read⟩
    rw [String.toList_ofList] at head
    obtain ⟨apart, notBlank, unawaited⟩ := stops c head
    rw [← String.toList_ofList (l := front)] at apart
    exact reachedByText.parse_ne_ok apart notBlank unawaited more type (mapError_eq_ok.1 read)

/-- Where a type is due, every signature may stand. -/
theorem begins_of_typeDue {front : String} {frames : List Frame}
    (reached : Stand.Reached registry.lookup front.toList (.typeDue frames))
    (apart : ∀ other, Lexeme.Apart front.toList other) {signature : String} {type : DataType}
    (read : registry.parse signature = .ok type) : registry.Begins (front ++ signature) := by
  have spelled := parse_eq_ok_iff.1 read
  obtain ⟨result, completed⟩ := exists_readType_closings
    (front ++ (signature ++ String.ofList (closings frames))).utf8ByteSize spelled frames
    (Lexeme.bytes front.toList)
  refine ⟨String.ofList (closings frames), result, mapError_eq_ok.2 ?_⟩
  rw [String.append_assoc, reached.parse_append (apart _), String.toList_append,
    String.toList_ofList]
  exact completed

/-- A name that is not found is the name of no declared type. -/
theorem ne_of_lookup_eq_none {word : String} (unknown : registry.lookup word = none) :
    ∀ type ∈ registry.types, type.name ≠ word := by
  rw [lookup, Option.map_eq_none_iff, List.find?_eq_none] at unknown
  intro type member same
  exact unknown type member (beq_iff_eq.2 same)

/-- A text that is refused for a word misnames a type by it. -/
theorem misnames_of_refusedFor {text : String} {fault : SignatureFault}
    (refused : RefusedFor registry.lookup text.toList fault) :
    ∃ word, fault = .unknownName word ∧ registry.Misnames text word := by
  obtain ⟨front, word, rest, frames, split, reached, apart, isWord, ends, free, unknown, rfl⟩ :=
    refused
  rw [← String.toList_ofList (l := front)] at reached apart
  refine ⟨word, rfl, ⟨String.ofList front, String.ofList rest, ?_, isWord, apart _, ?_, ?_⟩, free,
    ne_of_lookup_eq_none unknown⟩
  · have whole := congrArg String.ofList split
    rwa [String.ofList_toList, String.ofList_append, String.ofList_append,
      String.ofList_toList] at whole
  · rwa [String.toList_ofList]
  · exact fun signature type read => begins_of_typeDue reached apart read

/-- Every lexeme of a text stands in it from its offset on, which is between two characters. -/
theorem exists_place_of_mem {text : String} {placed : Placed}
    (member : placed ∈ Lexeme.ofText text) :
    ∃ front rest, text = front ++ String.ofList placed.lexeme.chars ++ rest ∧
      front.utf8ByteSize = placed.offset := by
  obtain ⟨before, after, shape⟩ := List.append_of_mem member
  obtain ⟨front, rest, split, -, -, first, -⟩ := Lexeme.exists_split shape
  obtain ⟨blank, tail, rfl, -, -, place, -⟩ := Lexeme.cut_eq_cons first
  refine ⟨String.ofList (front ++ blank), String.ofList tail, ?_, ?_⟩
  · have whole := congrArg String.ofList split
    simpa only [String.ofList_toList, String.ofList_append, String.append_assoc] using whole
  · rw [← Lexeme.bytes_toList, String.toList_ofList, Lexeme.bytes_append, place, Nat.zero_add]

/-- A registry looks at a text only between its characters. What it refuses either has a word in the
place of a type that is no keyword and names no declared type, and the error names that word; or the
wording of the error ends in an offset, up to which the text goes on to a signature and beyond which
it does not. -/
theorem fault_is_exact (registry : TypeRegistry) (text : String) :
    (∀ placed ∈ Lexeme.ofText text, ∃ front rest,
      text = front ++ String.ofList placed.lexeme.chars ++ rest ∧
        front.utf8ByteSize = placed.offset) ∧
    ∀ error, registry.parse text = .error error →
      (∃ word, error = .invalidType word (.signature (.unknownName word)) ∧
        registry.Misnames text word) ∨
      ∃ fault offset, error = .invalidType text (.signature fault) ∧
        fault.offset? = some offset ∧
        (∃ front, fault.reason = front ++ " at offset " ++ toString offset) ∧
        registry.BreaksAt text offset := by
  refine ⟨fun placed member => exists_place_of_mem member, fun error failed => ?_⟩
  obtain ⟨fault, refused, rfl⟩ := mapError_eq_error.1 failed
  rcases refused_of_parse refused with atStand | forWord
  · obtain ⟨offset, named, breaks⟩ := breaksAt_of_refusedAt atStand
    refine .inr ⟨fault, offset, ?_, named, SignatureFault.reason_of_offset? named, breaks⟩
    cases fault with
    | unknownName word => cases named
    | _ => rfl
  · obtain ⟨word, rfl, misnames⟩ := misnames_of_refusedFor forWord
    exact .inl ⟨word, rfl, misnames⟩

/-- A wide blank counts with all its bytes, and the name of a type has to be written exactly. -/
theorem fault_behind_wide_blank :
    let registry : TypeRegistry := ⟨[⟨0, "Point", [("x", .scalar false .int)]⟩]⟩
    registry.BreaksAt "map<text,\u2003Point é>" 18 ∧ registry.Misnames "set<point>" "point" := by
  intro registry
  have late : registry.parse "map<text,\u2003Point é>" =
      .error (.invalidType "map<text,\u2003Point é>" (.signature (.markExpected '>' 18))) := by
    decide +kernel
  have misspelled : registry.parse "set<point>" =
      .error (.invalidType "point" (.signature (.unknownName "point"))) := by decide +kernel
  constructor
  · obtain ⟨word, named, -⟩ | ⟨fault, offset, named, given, -, breaks⟩ :=
      (fault_is_exact registry _).2 _ late
    · cases named
    · cases named
      cases given
      exact breaks
  · obtain ⟨word, named, misnames⟩ | ⟨fault, offset, named, -⟩ :=
      (fault_is_exact registry _).2 _ misspelled
    · cases named
      exact misnames
    · have names := (SchemaError.invalidType.inj named).1
      exact absurd names (by decide)

end CqlSchema.TypeRegistry
