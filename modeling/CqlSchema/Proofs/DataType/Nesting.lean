import CqlSchema.DataType
/-!
# Nesting of unfrozen types

An element is exposed in a type when every type around it, up to the whole, is an unfrozen
collection. A type nests badly when it exposes a loose element, at any depth and on either side
of a map. `nonFrozenNesting` finds an element exactly in such a type, and finds a loose element
that the type exposes.
-/

namespace CqlSchema.DataType

/-- An element stands in a type below unfrozen collections only. -/
inductive Exposes : DataType → DataType → Prop where
  | element {type element : DataType} :
      type.isCollection = true → type.isFrozen = false → element ∈ type.elements →
      Exposes type element
  | deeper {type element inner : DataType} :
      type.isCollection = true → type.isFrozen = false → element ∈ type.elements →
      Exposes element inner → Exposes type inner

/-- A type exposes an element that may not stand unfrozen where it stands. -/
def NestsBadly (type : DataType) : Prop :=
  ∃ inner, type.Exposes inner ∧ inner.isLoose = true

/-- What is found at one element: the element itself, or what is found inside it. -/
def looseAt (element : DataType) : Option DataType :=
  if element.isLoose then some element else element.nonFrozenNesting

/-- An unfrozen collection is searched element by element. -/
theorem nonFrozenNesting_of_collection {type : DataType} (collection : type.isCollection = true)
    (unfrozen : type.isFrozen = false) :
    type.nonFrozenNesting = type.elements.findSome? looseAt := by
  have single : ∀ item : DataType, looseAt item = [item].findSome? looseAt := by
    intro item
    cases found : looseAt item <;> simp [found]
  cases type with
  | scalar frozen base => cases collection
  | user frozen handle => cases collection
  | list frozen item =>
    obtain rfl : frozen = false := unfrozen
    exact single item
  | set frozen item =>
    obtain rfl : frozen = false := unfrozen
    exact single item
  | map frozen key value =>
    obtain rfl : frozen = false := unfrozen
    show (looseAt key).or (looseAt value) = [key, value].findSome? looseAt
    rw [List.findSome?_cons, single value]
    cases looseAt key with
    | none => rfl
    | some inner => rfl

/-- Anything but an unfrozen collection is not searched. -/
theorem collection_of_nonFrozenNesting {type inner : DataType}
    (found : type.nonFrozenNesting = some inner) :
    type.isCollection = true ∧ type.isFrozen = false := by
  unfold nonFrozenNesting at found
  split at found
  · exact ⟨rfl, rfl⟩
  · exact ⟨rfl, rfl⟩
  · exact ⟨rfl, rfl⟩
  · cases found

/-- What holds of a type once it holds of its elements holds of every type. -/
theorem induction_on_elements {motive : DataType → Prop} (type : DataType)
    (step : ∀ type : DataType, (∀ element ∈ type.elements, motive element) → motive type) :
    motive type := by
  induction type with
  | scalar frozen base => exact step _ (by simp [elements])
  | list frozen item ih => exact step _ (by simpa [elements] using ih)
  | set frozen item ih => exact step _ (by simpa [elements] using ih)
  | map frozen key value keyIh valueIh =>
    exact step _ (by simpa [elements] using ⟨keyIh, valueIh⟩)
  | user frozen handle => exact step _ (by simp [elements])

/-- What is found is a loose element that the type exposes. -/
theorem exposes_of_nonFrozenNesting {type inner : DataType}
    (found : type.nonFrozenNesting = some inner) :
    type.Exposes inner ∧ inner.isLoose = true := by
  induction type using induction_on_elements with
  | step type ih =>
    obtain ⟨collection, unfrozen⟩ := collection_of_nonFrozenNesting found
    rw [nonFrozenNesting_of_collection collection unfrozen] at found
    obtain ⟨element, member, atElement⟩ := List.exists_of_findSome?_eq_some found
    unfold looseAt at atElement
    split at atElement
    · rename_i loose
      cases atElement
      exact ⟨.element collection unfrozen member, loose⟩
    · obtain ⟨exposed, loose⟩ := ih element member atElement
      exact ⟨.deeper collection unfrozen member exposed, loose⟩

/-- Something is found at an element that is loose or that nests badly. -/
theorem isSome_nonFrozenNesting_of_element {type element : DataType}
    (collection : type.isCollection = true) (unfrozen : type.isFrozen = false)
    (member : element ∈ type.elements) (found : (looseAt element).isSome = true) :
    type.nonFrozenNesting.isSome = true := by
  rw [nonFrozenNesting_of_collection collection unfrozen, List.findSome?_isSome_iff]
  exact ⟨element, member, found⟩

/-- Something is found in every type that exposes a loose element. -/
theorem isSome_nonFrozenNesting_of_exposes {type inner : DataType}
    (exposed : type.Exposes inner) (loose : inner.isLoose = true) :
    type.nonFrozenNesting.isSome = true := by
  induction exposed with
  | element collection unfrozen member =>
    refine isSome_nonFrozenNesting_of_element collection unfrozen member ?_
    rw [looseAt, if_pos loose]
    rfl
  | @deeper type element inner collection unfrozen member _ ih =>
    refine isSome_nonFrozenNesting_of_element collection unfrozen member ?_
    unfold looseAt
    split
    · rfl
    · exact ih loose

/-- Something is found exactly in the types that nest badly. -/
theorem isSome_nonFrozenNesting_iff {type : DataType} :
    type.nonFrozenNesting.isSome = true ↔ type.NestsBadly := by
  constructor
  · intro found
    obtain ⟨inner, atInner⟩ := Option.isSome_iff_exists.1 found
    exact ⟨inner, exposes_of_nonFrozenNesting atInner⟩
  · rintro ⟨inner, exposed, loose⟩
    exact isSome_nonFrozenNesting_of_exposes exposed loose

end CqlSchema.DataType
