import CqlSchema.DataType.Signature
import CqlSchema.Identifier
import CqlSchema.Proofs.DataType.Mentions
/-!
# Characters of a signature

Where the names of user defined types are identifiers, a signature consists of word characters,
angle brackets and commas, and it ends in a word or in a bracket. It therefore holds neither a
blank nor a parenthesis, and no comma at its end.
-/

namespace CqlSchema.DataType

/-- Every handle in a type is named by an identifier. -/
def NamedByIdentifiers (type : DataType) : Prop :=
  ∀ handle, type.Mentions handle → isIdentifier handle.name = true

/-- Characters that may stand in a signature. -/
def isSignatureChar (c : Char) : Bool :=
  isWordChar c || c = '<' || c = '>' || c = ','

/-- Freezing a text adds only characters of signatures. -/
theorem all_wrapFrozen {inner : String} (inside : inner.toList.all isSignatureChar = true)
    (frozen : Bool) : (wrapFrozen frozen inner).toList.all isSignatureChar = true := by
  cases frozen with
  | false => exact inside
  | true =>
    have opening : "frozen<".toList.all isSignatureChar = true := by decide
    have closing : ">".toList.all isSignatureChar = true := by decide
    show ("frozen<" ++ inner ++ ">").toList.all isSignatureChar = true
    simp only [String.toList_append, List.all_append, opening, inside, closing, Bool.and_self]

/-- A signature consists of characters of signatures. -/
theorem all_signature {type : DataType} (named : type.NamedByIdentifiers) :
    type.signature.toList.all isSignatureChar = true := by
  have closing : ">".toList.all isSignatureChar = true := by decide
  induction type with
  | scalar frozen base =>
    have word : base.keyword.toList.all isSignatureChar = true := by cases base <;> decide
    exact all_wrapFrozen word frozen
  | list frozen item ih =>
    have opening : "list<".toList.all isSignatureChar = true := by decide
    have inside := ih fun handle mentioned => named handle (.list mentioned)
    refine all_wrapFrozen ?_ frozen
    simp only [String.toList_append, List.all_append, opening, inside, closing, Bool.and_self]
  | set frozen item ih =>
    have opening : "set<".toList.all isSignatureChar = true := by decide
    have inside := ih fun handle mentioned => named handle (.set mentioned)
    refine all_wrapFrozen ?_ frozen
    simp only [String.toList_append, List.all_append, opening, inside, closing, Bool.and_self]
  | map frozen key value keyIh valueIh =>
    have opening : "map<".toList.all isSignatureChar = true := by decide
    have comma : ",".toList.all isSignatureChar = true := by decide
    have inKey := keyIh fun handle mentioned => named handle (.mapKey mentioned)
    have inValue := valueIh fun handle mentioned => named handle (.mapValue mentioned)
    refine all_wrapFrozen ?_ frozen
    simp only [String.toList_append, List.all_append, opening, inKey, comma, inValue, closing,
      Bool.and_self]
  | user frozen handle =>
    have word : handle.name.toList.all isSignatureChar = true := by
      rw [List.all_eq_true]
      intro c member
      simp [isSignatureChar, (isIdentifier_word (named handle .user)).2 c member]
    exact all_wrapFrozen word frozen

/-- A character that no signature may hold is in none. -/
theorem not_mem_signature {type : DataType} (named : type.NamedByIdentifiers) {c : Char}
    (other : isSignatureChar c = false) : c ∉ type.signature.toList := by
  intro member
  have inside := List.all_eq_true.1 (all_signature named) c member
  rw [other] at inside
  cases inside

/-- A word ends in a word character. -/
theorem getLast?_word {text : String} (word : text.toList.all isWordChar = true) :
    text.toList.getLast? ≠ some ',' := by
  intro last
  have inside := List.all_eq_true.1 word ',' (List.mem_of_getLast? last)
  revert inside
  decide

/-- A signature does not end in a comma. -/
theorem getLast?_signature {type : DataType} (named : type.NamedByIdentifiers) :
    type.signature.toList.getLast? ≠ some ',' := by
  have bracket : ∀ inner : String, (inner ++ ">").toList.getLast? ≠ some ',' := by
    intro inner
    simp
  have wrapped : ∀ (frozen : Bool) {inner : String}, inner.toList.getLast? ≠ some ',' →
      (wrapFrozen frozen inner).toList.getLast? ≠ some ',' := by
    intro frozen inner last
    cases frozen with
    | false => exact last
    | true => exact bracket _
  cases type with
  | scalar frozen base => exact wrapped frozen (getLast?_word (by cases base <;> decide))
  | list frozen item => exact wrapped frozen (bracket _)
  | set frozen item => exact wrapped frozen (bracket _)
  | map frozen key value => exact wrapped frozen (bracket _)
  | user frozen handle =>
    have word := List.all_eq_true.2 (isIdentifier_word (named handle .user)).2
    exact wrapped frozen (getLast?_word word)

end CqlSchema.DataType
