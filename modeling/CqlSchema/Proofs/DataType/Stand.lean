import CqlSchema.Proofs.DataType.Grammar
/-!
# The reader between two lexemes

Between two lexemes the reader stands in one of three ways: a type is due, the bracket of a wrapper
is due, or a type is complete. One lexeme takes it from a stand to the next, and the text may end at
one stand only. Reading is such a walk, so a text that is refused is refused at the first lexeme
that its stand does not take, or at its end. Which lexemes a stand takes shows in their first
character, and from every stand there is a text that leads to a type.
-/

namespace CqlSchema.DataType

open Outcome

/-- Ways in which the reader stands between two lexemes, with the open frames, innermost first. -/
inductive Stand where
  | typeDue (frames : List Frame)
  | bracketDue (kind : Wrapper) (frames : List Frame)
  | complete (type : DataType) (frames : List Frame)

namespace Stand

/-- Fault of a stand at an offset from which it cannot go on. -/
def faultAt (offset : Nat) : Stand → SignatureFault
  | .typeDue _ => .typeNameExpected offset
  | .bracketDue _ _ => .markExpected '<' offset
  | .complete _ [] => .trailingInput offset
  | .complete _ (frame :: _) => .markExpected frame.closer offset

/-- Stand after a word that is taken for a type. -/
def ofWord (lookup : String → Option Handle) (frames : List Frame) (word : String) :
    Except SignatureFault Stand :=
  match Keyword.ofWord? word with
  | some (.wrapper kind) => .ok (.bracketDue kind frames)
  | some (.scalar base) => .ok (.complete (.scalar false base) frames)
  | none =>
    match lookup word with
    | some handle => .ok (.complete (.user false handle) frames)
    | none => .error (.unknownName word)

/-- Stand after a frame has received a type. -/
def ofReceived (frames : List Frame) : DataType ⊕ Frame → Stand
  | .inl outer => .complete outer frames
  | .inr waiting => .typeDue (waiting :: frames)

/-- Stand after one more lexeme. -/
def step (lookup : String → Option Handle) (stand : Stand) (placed : Placed) :
    Except SignatureFault Stand :=
  match stand with
  | .typeDue frames =>
    match placed.lexeme with
    | .word word => ofWord lookup frames word
    | .mark _ => .error (stand.faultAt placed.offset)
  | .bracketDue kind frames =>
    if placed.lexeme = .mark '<' then .ok (.typeDue (kind.frame :: frames))
    else .error (stand.faultAt placed.offset)
  | .complete _ [] => .error (stand.faultAt placed.offset)
  | .complete type (frame :: frames) =>
    if placed.lexeme = .mark frame.closer then .ok (ofReceived frames (frame.receive type))
    else .error (stand.faultAt placed.offset)

/-- Type of a text that ends at a stand. -/
def ending (finish : Nat) : Stand → Except SignatureFault DataType
  | .complete type [] => .ok type
  | stand => .error (stand.faultAt finish)

/-- What the reader makes of the lexemes that follow a stand. -/
def read (lookup : String → Option Handle) (finish : Nat) :
    Stand → List Placed → Except SignatureFault DataType
  | .typeDue frames => readType lookup finish frames
  | .bracketDue kind frames => openWrapper lookup finish kind frames
  | .complete type frames => closeType lookup finish type frames

variable {lookup : String → Option Handle} {finish : Nat}

/-! ## Reading step by step -/

/-- Where no lexeme follows, the reader ends as its stand does. -/
theorem read_nil (stand : Stand) : stand.read lookup finish [] = stand.ending finish := by
  cases stand with
  | typeDue frames => rw [read, readType]; rfl
  | bracketDue kind frames => rw [read, openWrapper]; rfl
  | complete type frames =>
    cases frames with
    | nil => rw [read, closeType]; rfl
    | cons frame frames => rw [read, closeType]; rfl

/-- Where a lexeme follows, the reader takes one step and goes on from the next stand. -/
theorem read_cons (stand : Stand) (placed : Placed) (rest : List Placed) :
    stand.read lookup finish (placed :: rest) =
      stand.step lookup placed >>= fun next => next.read lookup finish rest := by
  obtain ⟨offset, lexeme⟩ := placed
  cases stand with
  | typeDue frames =>
    cases lexeme with
    | mark mark => rw [read, readType]; rfl
    | word word =>
      rw [read, readType]
      show _ = ofWord lookup frames word >>= _
      unfold ofWord
      rcases Keyword.ofWord? word with _ | ⟨kind | base⟩
      · cases lookup word with
        | none => rfl
        | some handle => rfl
      · rfl
      · rfl
  | bracketDue kind frames =>
    rw [read, openWrapper, step]
    split
    · rfl
    · rfl
  | complete type frames =>
    cases frames with
    | nil => rw [read, closeType]; rfl
    | cons frame frames =>
      rw [read, closeType, step]
      split
      · cases frame.receive type with
        | inl outer => rfl
        | inr waiting => rfl
      · rfl

/-- Reading takes all steps, and then ends. -/
theorem read_eq (stand : Stand) (lexemes : List Placed) :
    stand.read lookup finish lexemes =
      lexemes.foldlM (step lookup) stand >>= ending finish := by
  induction lexemes generalizing stand with
  | nil => exact read_nil stand
  | cons placed rest ih =>
    rw [read_cons, List.foldlM_cons, bind_assoc]
    exact congrArg _ (funext ih)

/-- After lexemes that were all taken, the reader goes on from the stand that they led to. -/
theorem read_append {stand last : Stand} {before : List Placed}
    (taken : before.foldlM (step lookup) stand = .ok last) (after : List Placed) :
    stand.read lookup finish (before ++ after) = last.read lookup finish after := by
  rw [read_eq, read_eq, List.foldlM_append, taken]
  rfl

/-! ## Where reading stops -/

/-- A text that may not end at a stand has the fault of the stand at its end. -/
theorem fault_of_ending {stand : Stand} {fault : SignatureFault}
    (ended : stand.ending finish = .error fault) : fault = stand.faultAt finish := by
  cases stand with
  | typeDue frames => cases ended; rfl
  | bracketDue kind frames => cases ended; rfl
  | complete type frames =>
    cases frames with
    | nil => cases ended
    | cons frame frames => cases ended; rfl

/-- A word that is taken for a type is refused when it is no keyword and is not found. -/
theorem ofWord_eq_error {frames : List Frame} {word : String} {fault : SignatureFault} :
    ofWord lookup frames word = .error fault ↔
      ¬ IsReserved word ∧ lookup word = none ∧ fault = .unknownName word := by
  rw [← ofWord?_eq_none_iff]
  unfold ofWord
  rcases Keyword.ofWord? word with _ | ⟨kind | base⟩
  · cases lookup word with
    | none => simp [eq_comm]
    | some handle => simp
  · simp
  · simp

/-- Characters with which a lexeme has to start for a stand to take it. -/
def Awaits (c : Char) : Stand → Prop
  | .typeDue _ => isWordChar c = true
  | .bracketDue _ _ => c = '<'
  | .complete _ [] => False
  | .complete _ (frame :: _) => c = frame.closer

/-- A lexeme is a mark when it starts with that mark. -/
theorem eq_mark_iff_of_startsWith {lexeme : Lexeme} {c mark : Char} (starts : lexeme.StartsWith c)
    (isMark : IsMark mark) : lexeme = .mark mark ↔ c = mark := by
  cases lexeme with
  | word text =>
    constructor
    · intro same
      cases same
    · rintro rfl
      have word := starts.2
      rw [isMark.1] at word
      cases word
  | mark char =>
    obtain ⟨rfl, -⟩ := starts
    rw [Lexeme.mark.injEq]

/-- A stand refuses a lexeme when it awaits another character, with the fault of the stand, or when
the lexeme is a word in the place of a type that names none. -/
theorem step_eq_error {stand : Stand} {placed : Placed} {fault : SignatureFault} {c : Char}
    (starts : placed.lexeme.StartsWith c) :
    stand.step lookup placed = .error fault ↔
      (¬ stand.Awaits c ∧ fault = stand.faultAt placed.offset) ∨
        ∃ frames word, stand = .typeDue frames ∧ placed.lexeme = .word word ∧
          ¬ IsReserved word ∧ lookup word = none ∧ fault = .unknownName word := by
  obtain ⟨offset, lexeme⟩ := placed
  cases stand with
  | typeDue frames =>
    cases lexeme with
    | word word =>
      show ofWord lookup frames word = _ ↔ _
      rw [ofWord_eq_error]
      simp [Awaits, starts.2]
    | mark char =>
      obtain ⟨rfl, outside⟩ := starts
      simp [step, Awaits, outside, eq_comm]
  | bracketDue kind frames =>
    have opener := eq_mark_iff_of_startsWith starts isMark_opener
    simp only [step, opener, Awaits]
    split
    · rename_i opens
      simp [opens]
    · rename_i other
      simp [other, eq_comm]
  | complete type frames =>
    cases frames with
    | nil => simp [step, Awaits, eq_comm]
    | cons frame frames =>
      have closer := eq_mark_iff_of_startsWith starts (isMark_closer frame)
      simp only [step, closer, Awaits]
      split
      · rename_i closes
        simp [closes]
      · rename_i other
        simp [other, eq_comm]

end Stand

end CqlSchema.DataType
