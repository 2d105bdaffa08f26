/-!
# Plain identifiers

An unquoted name is an ASCII letter followed by ASCII letters, digits and underscores. The
empty text is not a name.
-/

namespace CqlSchema

/-- Characters that may stand inside a name: ASCII letters, digits and the underscore. -/
def isWordChar (c : Char) : Bool :=
  c.isAlphanum || c = '_'

/-- Decides whether a text is a plain identifier. -/
def isIdentifier (text : String) : Bool :=
  match text.toList with
  | [] => false
  | first :: rest => first.isAlpha && rest.all isWordChar

theorem isWordChar_of_isAlpha {c : Char} (h : c.isAlpha = true) : isWordChar c = true := by
  simp [isWordChar, Char.isAlphanum, h]

/-- An identifier consists of word characters and has at least one of them. -/
theorem isIdentifier_word {text : String} (h : isIdentifier text = true) :
    text.toList ≠ [] ∧ ∀ c ∈ text.toList, isWordChar c = true := by
  unfold isIdentifier at h
  split at h
  · cases h
  · rename_i first rest shape
    simp only [Bool.and_eq_true, List.all_eq_true] at h
    rw [shape]
    refine ⟨List.cons_ne_nil _ _, fun c member => ?_⟩
    rcases List.mem_cons.1 member with rfl | inside
    · exact isWordChar_of_isAlpha h.1
    · exact h.2 c inside

end CqlSchema
