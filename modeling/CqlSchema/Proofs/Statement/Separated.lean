import CqlSchema.Statement
import Mathlib.Data.List.Basic
/-!
# Items that are separated by commas

Commas stand between the items of a statement and also inside the signature of a map, where no
blank follows. An item is tight when each of its commas is followed by something else than a
blank, so the first comma with a blank after it ends the item. Tight items that are not empty
are told by the text that they are joined to.
-/

namespace CqlSchema

/-- A text in which something else than a blank follows every comma. -/
def IsTight (text : List Char) : Prop :=
  ∀ after, ',' :: after <:+ text → ∃ c rest, after = c :: rest ∧ c ≠ ' '

/-- Without a comma a text is tight. -/
theorem isTight_of_not_mem {text : List Char} (free : ',' ∉ text) : IsTight text := by
  intro after suffix
  exact absurd (suffix.mem List.mem_cons_self) free

/-- The end of a tight text is tight. -/
theorem IsTight.tail {c : Char} {text : List Char} (tight : IsTight (c :: text)) :
    IsTight text := by
  intro after suffix
  exact tight after (suffix.trans (List.suffix_cons c text))

/-- Tight texts in a row are tight: a comma does not stand at the end of the first. -/
theorem IsTight.append {left right : List Char} (leftTight : IsTight left)
    (rightTight : IsTight right) : IsTight (left ++ right) := by
  induction left with
  | nil => exact rightTight
  | cons c left ih =>
    intro after suffix
    rcases List.suffix_cons_iff.1 suffix with whole | inside
    · obtain ⟨rfl, rfl⟩ := List.cons.inj whole
      obtain ⟨d, rest, rfl, notBlank⟩ := leftTight left (List.suffix_refl _)
      exact ⟨d, rest ++ right, rfl, notBlank⟩
    · exact ih leftTight.tail after inside

/-- A text without blanks that does not end in a comma is tight. -/
theorem isTight_of_last {text : List Char} (blankFree : ' ' ∉ text)
    (last : text.getLast? ≠ some ',') : IsTight text := by
  intro after suffix
  cases after with
  | nil =>
    obtain ⟨before, rfl⟩ := suffix
    simp at last
  | cons c rest =>
    refine ⟨c, rest, rfl, ?_⟩
    rintro rfl
    exact blankFree (suffix.mem (List.mem_cons_of_mem _ List.mem_cons_self))

/-- A text after an item: nothing, or a comma and a blank. -/
def EndsItem (text : List Char) : Prop :=
  text = [] ∨ ∃ rest, text = ',' :: ' ' :: rest

/-- No tight text stands where an item ends. -/
theorem IsTight.eq_nil_of_append {text rest whole : List Char} (tight : IsTight text)
    (ends : EndsItem whole) (same : text ++ rest = whole) : text = [] := by
  cases text with
  | nil => rfl
  | cons c text =>
    rcases ends with rfl | ⟨after, rfl⟩
    · cases same
    · obtain ⟨rfl, shape⟩ := List.cons.inj same
      obtain ⟨d, tail, rfl, notBlank⟩ := tight text (List.suffix_refl _)
      exact absurd (List.cons.inj shape).1 notBlank

/-- A tight text is told by what it is joined to. -/
theorem IsTight.eq_of_append {left right leftRest rightRest : List Char}
    (leftTight : IsTight left) (rightTight : IsTight right) (leftEnds : EndsItem leftRest)
    (rightEnds : EndsItem rightRest) (same : left ++ leftRest = right ++ rightRest) :
    left = right ∧ leftRest = rightRest := by
  induction left generalizing right with
  | nil =>
    obtain rfl := rightTight.eq_nil_of_append leftEnds same.symm
    exact ⟨rfl, same⟩
  | cons c left ih =>
    cases right with
    | nil => cases leftTight.eq_nil_of_append rightEnds same
    | cons d right =>
      obtain ⟨rfl, tails⟩ := List.cons.inj same
      obtain ⟨rfl, rests⟩ := ih leftTight.tail rightTight.tail tails
      exact ⟨rfl, rests⟩

/-! ## Joined items -/

/-- Characters of the items after the first, each after a comma and a blank. -/
def laterItems (items : List String) : List Char :=
  items.flatMap fun item => ',' :: ' ' :: item.toList

/-- Characters of joined items: the first, and then all others. -/
theorem toList_commaSeparated_cons (first : String) (rest : List String) :
    (commaSeparated (first :: rest)).toList = first.toList ++ laterItems rest := by
  have separator : ", ".toList = [',', ' '] := rfl
  rw [commaSeparated, String.toList_intercalate, separator]
  induction rest generalizing first with
  | nil => simp [laterItems]
  | cons second rest ih =>
    rw [List.map_cons, List.map_cons, List.intercalate_cons_cons, ← List.map_cons, ih second]
    simp [laterItems]

/-- What follows an item ends it. -/
theorem endsItem_laterItems (items : List String) : EndsItem (laterItems items) := by
  cases items with
  | nil => exact .inl rfl
  | cons first rest => exact .inr ⟨first.toList ++ laterItems rest, rfl⟩

/-- Items after the first are told by their text. -/
theorem laterItems_inj {left right : List String} (leftTight : ∀ item ∈ left, IsTight item.toList)
    (rightTight : ∀ item ∈ right, IsTight item.toList)
    (same : laterItems left = laterItems right) : left = right := by
  induction left generalizing right with
  | nil =>
    cases right with
    | nil => rfl
    | cons first rest => cases same
  | cons item left ih =>
    cases right with
    | nil => cases same
    | cons other right =>
      obtain ⟨itemTight, leftRest⟩ := List.forall_mem_cons.1 leftTight
      obtain ⟨otherTight, rightRest⟩ := List.forall_mem_cons.1 rightTight
      have texts : item.toList ++ laterItems left = other.toList ++ laterItems right :=
        (List.cons.inj (List.cons.inj same).2).2
      obtain ⟨sameItem, sameRest⟩ := itemTight.eq_of_append otherTight (endsItem_laterItems left)
        (endsItem_laterItems right) texts
      rw [String.toList_inj.1 sameItem, ih leftRest rightRest sameRest]

/-- Texts that can be told when they are joined: tight and not empty. -/
structure IsItem (text : String) : Prop where
  /-- There is something to be told. -/
  nonempty : text.toList ≠ []
  /-- Something else than a blank follows every comma. -/
  tight : IsTight text.toList

/-- Joined items are told by their text. -/
theorem commaSeparated_inj {left right : List String} (leftItems : ∀ item ∈ left, IsItem item)
    (rightItems : ∀ item ∈ right, IsItem item)
    (same : commaSeparated left = commaSeparated right) : left = right := by
  have letters := congrArg String.toList same
  have none : (commaSeparated []).toList = [] := rfl
  cases left with
  | nil =>
    cases right with
    | nil => rfl
    | cons first rest =>
      rw [none, toList_commaSeparated_cons] at letters
      have empty := (List.append_eq_nil_iff.1 letters.symm).1
      exact absurd empty (rightItems first List.mem_cons_self).nonempty
  | cons item left =>
    cases right with
    | nil =>
      rw [none, toList_commaSeparated_cons] at letters
      have empty := (List.append_eq_nil_iff.1 letters).1
      exact absurd empty (leftItems item List.mem_cons_self).nonempty
    | cons other right =>
      rw [toList_commaSeparated_cons, toList_commaSeparated_cons] at letters
      refine laterItems_inj (fun text member => (leftItems text member).tight)
        (fun text member => (rightItems text member).tight) ?_
      exact congrArg (fun text => ',' :: ' ' :: text) letters

/-- A mark that is in no item, and neither a comma nor a blank, is not in the later items. -/
theorem not_mem_laterItems {items : List String} {mark : Char}
    (free : ∀ item ∈ items, mark ∉ item.toList) (notComma : mark ≠ ',') (notBlank : mark ≠ ' ') :
    mark ∉ laterItems items := by
  intro member
  obtain ⟨item, inItems, inside⟩ := List.mem_flatMap.1 member
  rcases List.mem_cons.1 inside with same | afterComma
  · exact notComma same
  · rcases List.mem_cons.1 afterComma with same | inItem
    · exact notBlank same
    · exact free item inItems inItem

/-- Such a mark is not in joined items. -/
theorem not_mem_commaSeparated {items : List String} {mark : Char}
    (free : ∀ item ∈ items, mark ∉ item.toList) (notComma : mark ≠ ',') (notBlank : mark ≠ ' ') :
    mark ∉ (commaSeparated items).toList := by
  cases items with
  | nil =>
    intro member
    cases member
  | cons first rest =>
    obtain ⟨firstFree, restFree⟩ := List.forall_mem_cons.1 free
    rw [toList_commaSeparated_cons, List.mem_append, not_or]
    exact ⟨firstFree, not_mem_laterItems restFree notComma notBlank⟩

end CqlSchema
