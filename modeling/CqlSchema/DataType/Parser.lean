import CqlSchema.DataType.Lexeme
import CqlSchema.DataType
import CqlSchema.Text.Fold
/-!
# Reading signatures

Signatures are read from left to right with a stack of the wrappers that are still open, so the
reader recurses on the lexemes alone. Keywords are recognised in any case; the names of user
defined types are looked up exactly as written. A failure says what was expected and at which
byte offset, or which word names no type.
-/

namespace CqlSchema.DataType

/-- Words that take an argument in angle brackets. -/
inductive Wrapper where
  | frozen
  | list
  | set
  | map
  deriving Repr, DecidableEq

/-- What a word of a signature stands for, apart from the names of user defined types. -/
inductive Keyword where
  | wrapper (kind : Wrapper)
  | scalar (base : Scalar)
  deriving Repr, DecidableEq

/-- Wrapper with the given spelling in small letters. -/
def Wrapper.ofFolded? (word : String) : Option Wrapper :=
  if word = "frozen" then some .frozen
  else if word = "list" then some .list
  else if word = "set" then some .set
  else if word = "map" then some .map
  else none

/-- Scalar with the given keyword, whatever the case of its letters. -/
def scalarOfWord? (word : String) : Option Scalar :=
  Scalar.all.find? fun base => Text.sameFolded base.keyword word

/-- Keyword that a word spells, whatever the case of its letters. -/
def Keyword.ofWord? (word : String) : Option Keyword :=
  match Wrapper.ofFolded? (Text.fold word) with
  | some kind => some (.wrapper kind)
  | none => (scalarOfWord? word).map .scalar

/-- Ways in which a text fails to be a signature. -/
inductive SignatureFault where
  | typeNameExpected (offset : Nat)
  | markExpected (mark : Char) (offset : Nat)
  | trailingInput (offset : Nat)
  | unknownName (word : String)
  deriving Repr, DecidableEq

/-- An open wrapper, with what it has already received. -/
inductive Frame where
  | frozen
  | list
  | set
  | mapKey
  | mapValue (key : DataType)
  deriving Repr, DecidableEq

/-- Frame that a wrapper opens. -/
def Wrapper.frame : Wrapper → Frame
  | .frozen => .frozen
  | .list => .list
  | .set => .set
  | .map => .mapKey

namespace Frame

/-- Mark that follows a type inside a frame. -/
def closer : Frame → Char
  | .mapKey => ','
  | _ => '>'

/-- What a frame makes of the type inside it: a finished type, or a frame that waits for the
second element of a map. -/
def receive (type : DataType) : Frame → DataType ⊕ Frame
  | .frozen => .inl type.freeze
  | .list => .inl (.list false type)
  | .set => .inl (.set false type)
  | .mapKey => .inr (.mapValue type)
  | .mapValue key => .inl (.map false key type)

end Frame

mutual

/-- Reads a type inside the given frames, innermost first; `finish` is the byte length of the
text. -/
def readType (lookup : String → Option Handle) (finish : Nat) (frames : List Frame) :
    List Placed → Except SignatureFault DataType
  | [] => .error (.typeNameExpected finish)
  | ⟨offset, .mark _⟩ :: _ => .error (.typeNameExpected offset)
  | ⟨_, .word word⟩ :: rest =>
    match Keyword.ofWord? word with
    | some (.wrapper kind) => openWrapper lookup finish kind frames rest
    | some (.scalar base) => closeType lookup finish (.scalar false base) frames rest
    | none =>
      match lookup word with
      | some handle => closeType lookup finish (.user false handle) frames rest
      | none => .error (.unknownName word)

/-- Reads what follows the word of a wrapper: an opening bracket and the type inside. -/
def openWrapper (lookup : String → Option Handle) (finish : Nat) (kind : Wrapper)
    (frames : List Frame) : List Placed → Except SignatureFault DataType
  | [] => .error (.markExpected '<' finish)
  | ⟨offset, lexeme⟩ :: rest =>
    if lexeme = .mark '<' then readType lookup finish (kind.frame :: frames) rest
    else .error (.markExpected '<' offset)

/-- Continues after a complete type: hands it to the innermost frame, or ends the text. -/
def closeType (lookup : String → Option Handle) (finish : Nat) (type : DataType) :
    List Frame → List Placed → Except SignatureFault DataType
  | [], [] => .ok type
  | [], ⟨offset, _⟩ :: _ => .error (.trailingInput offset)
  | frame :: _, [] => .error (.markExpected frame.closer finish)
  | frame :: frames, ⟨offset, lexeme⟩ :: rest =>
    if lexeme = .mark frame.closer then
      match frame.receive type with
      | .inl outer => closeType lookup finish outer frames rest
      | .inr waiting => readType lookup finish (waiting :: frames) rest
    else .error (.markExpected frame.closer offset)

end

/-- Reads a whole text as a type. Handles of user defined types come from `lookup`. -/
def parse (lookup : String → Option Handle) (text : String) : Except SignatureFault DataType :=
  readType lookup text.utf8ByteSize [] (Lexeme.ofText text)

end CqlSchema.DataType
