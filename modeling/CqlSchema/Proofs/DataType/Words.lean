import CqlSchema.Proofs.DataType.RoundTrip
import CqlSchema.Proofs.DataType.SignatureText
/-!
# Words of a signature

The words of a text are its maximal runs of word characters. In a signature the marks `<`, `>` and
`,` stand between any two words, so no word merges with another one or is split. Without the
keywords exactly the names of its handles are left, from left to right and as often as they occur.
-/

namespace CqlSchema.DataType

/-- Maximal runs of word characters in a text, in order. -/
def words (text : String) : List String :=
  ((text.toList.splitOnP fun c => !isWordChar c).filter (· ≠ [])).map String.ofList

/-- Words of a text that are no keywords, in order. -/
def freeWords (text : String) : List String :=
  (words text).filter fun word => (Keyword.ofWord? word).isNone

/-- Words end at a mark. -/
theorem words_append_mark {mark : Char} (outside : isWordChar mark = false)
    (front rest : String) :
    words (front ++ String.singleton mark ++ rest) = words front ++ words rest := by
  have shape : (front ++ String.singleton mark ++ rest).toList =
      front.toList ++ mark :: rest.toList := by
    simp
  rw [words, shape, List.splitOnP_append_cons _ _ (by rw [outside]; rfl), List.filter_append,
    List.map_append]
  rfl

/-- A word has itself as its only word. -/
theorem words_of_isWord {word : String} (isWord : IsWord word.toList) : words word = [word] := by
  have whole : word.toList.splitOnP (fun c => !isWordChar c) = [word.toList] := by
    refine List.splitOnP_eq_singleton fun c member => ?_
    rw [isWord.2 c member]
    rfl
  rw [words, whole, List.filter_cons_of_pos (by simpa using isWord.1), List.filter_nil,
    List.map_singleton, String.ofList_toList]

/-! ## Words that are no keywords -/

/-- Words that are no keywords end at a mark. -/
theorem freeWords_append_mark {mark : Char} (outside : isWordChar mark = false)
    (front rest : String) :
    freeWords (front ++ String.singleton mark ++ rest) = freeWords front ++ freeWords rest := by
  rw [freeWords, words_append_mark outside, List.filter_append]
  rfl

/-- A keyword leaves nothing. -/
theorem freeWords_keyword (keyword : Keyword) : freeWords keyword.text = [] := by
  rw [freeWords, words_of_isWord keyword.isWord_text, List.filter_cons_of_neg, List.filter_nil]
  rw [keyword.ofWord?_text]
  exact Bool.false_ne_true

/-- A word that is not reserved is left. -/
theorem freeWords_of_isWord {word : String} (isWord : IsWord word.toList)
    (free : ¬ IsReserved word) : freeWords word = [word] := by
  rw [freeWords, words_of_isWord isWord, List.filter_cons_of_pos, List.filter_nil]
  rw [ofWord?_eq_none_iff.2 free]
  rfl

/-- A wrapper around a text leaves what the text leaves. -/
theorem freeWords_enclosed (kind : Wrapper) (inner : String) :
    freeWords (kind.text ++ "<" ++ inner ++ ">") = freeWords inner := by
  have opening := freeWords_append_mark (by decide : isWordChar '<' = false) kind.text inner
  have closing := freeWords_append_mark (by decide : isWordChar '>' = false)
    (kind.text ++ "<" ++ inner) ""
  have nothing : freeWords kind.text = [] := freeWords_keyword (.wrapper kind)
  rw [String.append_empty] at closing
  rw [nothing, List.nil_append] at opening
  calc freeWords (kind.text ++ "<" ++ inner ++ ">")
      = freeWords (kind.text ++ "<" ++ inner) ++ freeWords "" := closing
    _ = freeWords (kind.text ++ "<" ++ inner) := List.append_nil _
    _ = freeWords inner := opening

/-- Freezing a text leaves what the text leaves. -/
theorem freeWords_wrapFrozen (frozen : Bool) (inner : String) :
    freeWords (wrapFrozen frozen inner) = freeWords inner := by
  cases frozen with
  | false => rfl
  | true => exact freeWords_enclosed .frozen inner

/-- A signature leaves the names of its handles, where these are identifiers and not reserved. -/
theorem freeWords_signature {type : DataType} (named : type.NamedByIdentifiers)
    (free : ∀ handle, type.Mentions handle → ¬ IsReserved handle.name) :
    freeWords type.signature = type.userTypes.map Handle.name := by
  induction type with
  | scalar frozen base =>
    rw [signature, freeWords_wrapFrozen]
    exact freeWords_keyword (.scalar base)
  | list frozen item ih =>
    rw [signature, freeWords_wrapFrozen]
    exact (freeWords_enclosed .list item.signature).trans
      (ih (fun handle inside => named handle (.list inside))
        (fun handle inside => free handle (.list inside)))
  | set frozen item ih =>
    rw [signature, freeWords_wrapFrozen]
    exact (freeWords_enclosed .set item.signature).trans
      (ih (fun handle inside => named handle (.set inside))
        (fun handle inside => free handle (.set inside)))
  | map frozen key value keyIh valueIh =>
    have inKey := keyIh (fun handle inside => named handle (.mapKey inside))
      (fun handle inside => free handle (.mapKey inside))
    have inValue := valueIh (fun handle inside => named handle (.mapValue inside))
      (fun handle inside => free handle (.mapValue inside))
    have comma := freeWords_append_mark (by decide : isWordChar ',' = false) key.signature
      value.signature
    have together := freeWords_enclosed .map (key.signature ++ "," ++ value.signature)
    have shape : "map<" ++ key.signature ++ "," ++ value.signature ++ ">" =
        Wrapper.map.text ++ "<" ++ (key.signature ++ "," ++ value.signature) ++ ">" := by
      simp only [String.append_assoc]
      rfl
    rw [signature, freeWords_wrapFrozen, shape, together, userTypes, List.map_append, ← inKey,
      ← inValue]
    exact comma
  | user frozen handle =>
    rw [signature, freeWords_wrapFrozen]
    exact freeWords_of_isWord (isIdentifier_word (named handle .user)) (free handle .user)

end CqlSchema.DataType
