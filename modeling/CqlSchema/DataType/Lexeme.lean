import CqlSchema.Identifier
import CqlSchema.Text.Blank
/-!
# Lexemes of a signature

A signature is cut into words, which are maximal runs of word characters, and single other
characters; blanks only separate. Each lexeme keeps the byte offset where it starts, and the
end of the text has an offset of its own, so that every error can say where it arose.
-/

namespace CqlSchema.DataType

/-- Pieces of a signature. -/
inductive Lexeme where
  | word (text : String)
  | mark (char : Char)
  deriving Repr, DecidableEq

/-- A lexeme with the byte offset of its first character. -/
structure Placed where
  offset : Nat
  lexeme : Lexeme
  deriving Repr, DecidableEq

namespace Lexeme

/-- Number of bytes that a run of characters takes. -/
def bytes : List Char → Nat
  | [] => 0
  | c :: rest => c.utf8Size + bytes rest

@[simp] theorem bytes_nil : bytes [] = 0 := rfl

@[simp] theorem bytes_cons (c : Char) (rest : List Char) :
    bytes (c :: rest) = c.utf8Size + bytes rest := rfl

@[simp] theorem bytes_append (left right : List Char) :
    bytes (left ++ right) = bytes left + bytes right := by
  induction left with
  | nil => simp
  | cons c rest ih => simp only [List.cons_append, bytes_cons, ih]; omega

/-- Cuts a text whose first character has the given byte offset. -/
def cut (offset : Nat) : List Char → List Placed
  | [] => []
  | c :: rest =>
    if isWordChar c then
      let word := c :: rest.takeWhile isWordChar
      ⟨offset, .word (String.ofList word)⟩ ::
        cut (offset + bytes word) (rest.dropWhile isWordChar)
    else if Text.isBlank c then cut (offset + c.utf8Size) rest
    else ⟨offset, .mark c⟩ :: cut (offset + c.utf8Size) rest
  termination_by text => text.length
  decreasing_by
    all_goals simp only [List.length_cons]
    · exact Nat.lt_succ_of_le (List.dropWhile_suffix _).length_le
    · exact Nat.lt_succ_self _
    · exact Nat.lt_succ_self _

/-- Lexemes of a signature, with their byte offsets. -/
def ofText (text : String) : List Placed :=
  cut 0 text.toList

end Lexeme

end CqlSchema.DataType
