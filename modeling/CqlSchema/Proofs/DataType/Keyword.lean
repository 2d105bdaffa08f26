import CqlSchema.DataType.Parser
/-!
# Reserved words

The words that mean something by themselves in a signature are the names of the wrappers and of
the scalars. A word is reserved when it is one of them whatever the case of its letters, and
these are exactly the words that are recognised as keywords.
-/

namespace CqlSchema.DataType

/-- Spelling of a wrapper. -/
def Wrapper.text : Wrapper → String
  | .frozen => "frozen"
  | .list => "list"
  | .set => "set"
  | .map => "map"

namespace Keyword

/-- Spelling of a keyword in small letters. -/
def text : Keyword → String
  | .wrapper kind => kind.text
  | .scalar base => base.keyword

/-- What a word is recognised as depends only on its folded text. -/
theorem ofWord?_congr {left right : String} (same : Text.fold left = Text.fold right) :
    ofWord? left = ofWord? right := by
  have scalars : scalarOfWord? left = scalarOfWord? right := by
    simp only [scalarOfWord?, Text.sameFolded, same]
  simp only [ofWord?, same, scalars]

/-- Every keyword is recognised by its own spelling. -/
theorem ofWord?_text (keyword : Keyword) : ofWord? keyword.text = some keyword := by
  cases keyword with
  | wrapper kind => cases kind <;> decide
  | scalar base => cases base <;> decide

/-- The spelling of a keyword has no capitals. -/
theorem fold_text (keyword : Keyword) : Text.fold keyword.text = keyword.text := by
  cases keyword with
  | wrapper kind => cases kind <;> decide
  | scalar base => cases base <;> decide

/-- A wrapper is recognised only by its spelling. -/
theorem text_of_ofFolded? {word : String} {kind : Wrapper}
    (found : Wrapper.ofFolded? word = some kind) : word = kind.text := by
  unfold Wrapper.ofFolded? at found
  split at found
  · rename_i same
    cases found
    exact same
  · split at found
    · rename_i same
      cases found
      exact same
    · split at found
      · rename_i same
        cases found
        exact same
      · split at found
        · rename_i same
          cases found
          exact same
        · cases found

/-- A word is recognised as a keyword exactly when it is spelled like it up to case. -/
theorem ofWord?_eq_some_iff {word : String} {keyword : Keyword} :
    ofWord? word = some keyword ↔ Text.sameFolded word keyword.text = true := by
  constructor
  · intro found
    rw [Text.sameFolded_iff, fold_text]
    unfold ofWord? at found
    split at found
    · rename_i kind isWrapper
      cases found
      exact text_of_ofFolded? isWrapper
    · obtain ⟨base, isScalar, rfl⟩ := Option.map_eq_some_iff.1 found
      unfold scalarOfWord? at isScalar
      have same := Text.sameFolded_iff.1 (List.find?_some isScalar :)
      rw [← same]
      exact fold_text (.scalar base)
  · intro same
    rw [ofWord?_congr (Text.sameFolded_iff.1 same), ofWord?_text]

end Keyword

/-- Reserved words are spelled like a keyword up to case. -/
def IsReserved (word : String) : Prop :=
  ∃ keyword : Keyword, Text.sameFolded word keyword.text = true

/-- Reserved words are exactly those that are recognised. -/
theorem ofWord?_eq_none_iff {word : String} :
    Keyword.ofWord? word = none ↔ ¬ IsReserved word := by
  rw [Option.eq_none_iff_forall_ne_some, IsReserved, not_exists]
  simp only [ne_eq, Keyword.ofWord?_eq_some_iff]

end CqlSchema.DataType
