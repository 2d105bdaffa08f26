import CqlSchema.DataType.Parser
import CqlSchema.DataType.Signature
import CqlSchema.Proofs.DataType.Mentions
/-!
# Types under other numbers

The number of a handle says where its registry keeps a type, and the name says which type that is.
A renumbering gives every handle a number by its name. It changes no text and no shape of a type,
and a text is read as the renumbered type when the names are looked up under the new numbers.
-/

namespace CqlSchema

/-- The same handle under the number that its name is given. -/
def Handle.renumber (number : String → Nat) (handle : Handle) : Handle :=
  ⟨number handle.name, handle.name⟩

namespace DataType

/-- The same type with all its handles renumbered. -/
def renumber (number : String → Nat) : DataType → DataType
  | .scalar frozen base => .scalar frozen base
  | .list frozen item => .list frozen (item.renumber number)
  | .set frozen item => .set frozen (item.renumber number)
  | .map frozen key value => .map frozen (key.renumber number) (value.renumber number)
  | .user frozen handle => .user frozen (handle.renumber number)

variable {number : String → Nat}

/-! ## What stays -/

/-- Loose types are still loose, and no others are. -/
@[simp] theorem isLoose_renumber (type : DataType) :
    (type.renumber number).isLoose = type.isLoose := by
  cases type <;> rfl

/-- A frozen type is renumbered inside. -/
@[simp] theorem renumber_freeze (type : DataType) :
    type.freeze.renumber number = (type.renumber number).freeze := by
  cases type <;> rfl

/-- Only the last numbers count. -/
theorem renumber_renumber (other : String → Nat) (type : DataType) :
    (type.renumber other).renumber number = type.renumber number := by
  induction type with
  | scalar frozen base => rfl
  | list frozen item ih => simp only [renumber, ih]
  | set frozen item ih => simp only [renumber, ih]
  | map frozen key value keyIh valueIh => simp only [renumber, keyIh, valueIh]
  | user frozen handle => rfl

/-- A type stays as it is when its handles have their numbers already. -/
theorem renumber_eq_self {type : DataType}
    (numbered : ∀ handle, type.Mentions handle → handle.renumber number = handle) :
    type.renumber number = type := by
  induction type with
  | scalar frozen base => rfl
  | list frozen item ih => rw [renumber, ih fun handle inside => numbered handle (.list inside)]
  | set frozen item ih => rw [renumber, ih fun handle inside => numbered handle (.set inside)]
  | map frozen key value keyIh valueIh =>
    rw [renumber, keyIh fun handle inside => numbered handle (.mapKey inside),
      valueIh fun handle inside => numbered handle (.mapValue inside)]
  | user frozen handle => rw [renumber, numbered handle .user]

/-- The signature of a type tells nothing of numbers. -/
@[simp] theorem signature_renumber (type : DataType) :
    (type.renumber number).signature = type.signature := by
  induction type with
  | scalar frozen base => rfl
  | list frozen item ih => simp only [renumber, signature, ih]
  | set frozen item ih => simp only [renumber, signature, ih]
  | map frozen key value keyIh valueIh => simp only [renumber, signature, keyIh, valueIh]
  | user frozen handle => rfl

/-- The handles of a type are renumbered in place. -/
@[simp] theorem userTypes_renumber (type : DataType) :
    (type.renumber number).userTypes = type.userTypes.map (Handle.renumber number) := by
  induction type with
  | scalar frozen base => rfl
  | list frozen item ih => exact ih
  | set frozen item ih => exact ih
  | map frozen key value keyIh valueIh =>
    simp only [renumber, userTypes, keyIh, valueIh, List.map_append]
  | user frozen handle => rfl

/-- A renumbered type mentions the renumbered handles. -/
theorem mentions_renumber_iff {type : DataType} {handle : Handle} :
    (type.renumber number).Mentions handle ↔
      ∃ other, type.Mentions other ∧ other.renumber number = handle := by
  simp only [← mem_userTypes_iff, userTypes_renumber, List.mem_map]

/-- Bad nesting is found at the same element. -/
@[simp] theorem nonFrozenNesting_renumber (type : DataType) :
    (type.renumber number).nonFrozenNesting = type.nonFrozenNesting.map (renumber number) := by
  induction type with
  | scalar frozen base => rfl
  | list frozen item ih | set frozen item ih =>
    cases frozen with
    | true => rfl
    | false =>
      simp only [renumber, nonFrozenNesting, isLoose_renumber, ih]
      split <;> rfl
  | map frozen key value keyIh valueIh =>
    cases frozen with
    | true => rfl
    | false =>
      simp only [renumber, nonFrozenNesting, isLoose_renumber, keyIh, valueIh, Option.map_or]
      congr 1
      · split <;> rfl
      · split <;> rfl
  | user frozen handle => rfl

/-! ## Reading -/

/-- The same frame with what it has received renumbered. -/
def Frame.renumber (number : String → Nat) : Frame → Frame
  | .mapValue key => .mapValue (key.renumber number)
  | frame => frame

/-- A frame is still closed by the same mark. -/
@[simp] theorem Frame.closer_renumber (frame : Frame) :
    (frame.renumber number).closer = frame.closer := by
  cases frame <;> rfl

/-- A wrapper opens a frame that has received nothing. -/
@[simp] theorem Frame.renumber_frame (kind : Wrapper) :
    kind.frame.renumber number = kind.frame := by
  cases kind <;> rfl

/-- What a frame makes of a renumbered type is what it makes of the type, renumbered. -/
theorem Frame.receive_renumber (type : DataType) (frame : Frame) :
    (frame.renumber number).receive (type.renumber number) =
      (frame.receive type).map (DataType.renumber number) (Frame.renumber number) := by
  cases frame with
  | frozen => simp only [Frame.renumber, Frame.receive, Sum.map_inl, renumber_freeze]
  | list => rfl
  | set => rfl
  | mapKey => rfl
  | mapValue key => rfl

variable {lookup renumbered : String → Option Handle}

/-- Reading goes on in the same way under other numbers, wherever in a text it stands. -/
theorem read_renumber
    (same : ∀ name, renumbered name = (lookup name).map (Handle.renumber number))
    (finish : Nat) (rest : List Placed) :
    (∀ frames, readType renumbered finish (frames.map (Frame.renumber number)) rest =
      (readType lookup finish frames rest).map (renumber number)) ∧
    (∀ kind frames,
      openWrapper renumbered finish kind (frames.map (Frame.renumber number)) rest =
        (openWrapper lookup finish kind frames rest).map (renumber number)) ∧
    ∀ type frames,
      closeType renumbered finish (type.renumber number) (frames.map (Frame.renumber number)) rest =
        (closeType lookup finish type frames rest).map (renumber number) := by
  -- Every function hands the remaining lexemes to another one, so all three go together.
  induction rest with
  | nil =>
    refine ⟨fun frames => by simp [readType, Except.map], fun kind frames => by
      simp [openWrapper, Except.map], fun type frames => ?_⟩
    cases frames with
    | nil => simp [closeType, Except.map]
    | cons frame frames => simp [closeType, Except.map]
  | cons placed rest ih =>
    obtain ⟨offset, lexeme⟩ := placed
    obtain ⟨readIh, openIh, closeIh⟩ := ih
    refine ⟨fun frames => ?_, fun kind frames => ?_, fun type frames => ?_⟩
    · cases lexeme with
      | mark char => simp [readType, Except.map]
      | word word =>
        simp only [readType]
        cases Keyword.ofWord? word with
        | some keyword =>
          cases keyword with
          | wrapper kind => exact openIh kind frames
          | scalar base => exact closeIh (.scalar false base) frames
        | none =>
          simp only [same]
          cases lookup word with
          | none => rfl
          | some handle => exact closeIh (.user false handle) frames
    · have inner := readIh (kind.frame :: frames)
      rw [List.map_cons, Frame.renumber_frame] at inner
      simp only [openWrapper]
      split
      · exact inner
      · rfl
    · cases frames with
      | nil => simp [closeType, Except.map]
      | cons frame frames =>
        simp only [List.map_cons, closeType, Frame.closer_renumber, Frame.receive_renumber]
        split
        · cases frame.receive type with
          | inl outer => exact closeIh outer frames
          | inr waiting => exact readIh (waiting :: frames)
        · rfl

/-- A text is read as the renumbered type when names are looked up under the new numbers, and is
refused alike. -/
theorem parse_renumber
    (same : ∀ name, renumbered name = (lookup name).map (Handle.renumber number)) (text : String) :
    parse renumbered text = (parse lookup text).map (renumber number) :=
  (read_renumber same text.utf8ByteSize (Lexeme.ofText text)).1 []

end DataType

end CqlSchema
