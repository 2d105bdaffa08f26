import CqlSchema.Proofs.DataType.Nesting
/-!
# The first badly nested element

A place in a type is the row of numbers that leads to it, each the number of an element of what was
reached before. Ordered by their numbers, places stand in the order in which a type is written: the
whole comes first, and every element comes with all that is inside it in front of the next one. A
loose element offends where all types around it are unfrozen collections, and what is reported is
the offence at the first place. It is always a direct element: what offends deeper down stands
inside an element that offends itself.
-/

namespace CqlSchema.DataType

/-- Numbers of elements that lead to a part of a type, from the whole inwards. -/
abbrev Place := List Nat

/-- A place stands before another one in the order of their numbers. -/
def Place.Before (earlier later : Place) : Prop :=
  List.Lex (· < ·) earlier later

/-- Part of a type at a place. -/
def part? : DataType → Place → Option DataType
  | type, [] => some type
  | type, number :: rest => type.elements[number]?.bind fun element => element.part? rest

/-- A loose element stands at a place, and every type around it is an unfrozen collection. -/
structure Offends (type : DataType) (place : Place) (element : DataType) : Prop where
  /-- The element stands at the place. -/
  found : type.part? place = some element
  /-- It is an unfrozen collection or user defined type. -/
  loose : element.isLoose = true
  /-- It is not the whole type. -/
  inside : place ≠ []
  /-- What is around it, up to the whole type, are unfrozen collections. -/
  exposed : ∀ around, around <+: place → around ≠ place →
    ∃ outer, type.part? around = some outer ∧ outer.isCollection = true ∧ outer.isFrozen = false

/-- An element offends at a place, and none offends at an earlier one. -/
structure FirstOffence (type : DataType) (place : Place) (element : DataType) : Prop where
  /-- The element offends. -/
  offends : type.Offends place element
  /-- No offence is at an earlier place. -/
  first : ∀ other inner, type.Offends other inner → ¬ Place.Before other place

variable {type element : DataType} {place : Place}

/-! ## Direct elements -/

/-- An unfrozen collection is loose. -/
theorem isLoose_of_collection (collection : type.isCollection = true)
    (unfrozen : type.isFrozen = false) : type.isLoose = true := by
  rw [isLoose, collection, unfrozen]
  rfl

/-- Something is found at an element only when the element itself is loose: anything else is a
scalar or frozen, and is not searched. -/
theorem looseAt_eq_guard : looseAt = Option.guard isLoose := by
  funext element
  unfold looseAt Option.guard
  split
  · rfl
  · rename_i tight
    rw [Option.eq_none_iff_forall_ne_some]
    intro inner found
    obtain ⟨collection, unfrozen⟩ := collection_of_nonFrozenNesting found
    exact tight (isLoose_of_collection collection unfrozen)

/-- The first loose element of an unfrozen collection is found. -/
theorem nonFrozenNesting_eq_find? (collection : type.isCollection = true)
    (unfrozen : type.isFrozen = false) :
    type.nonFrozenNesting = type.elements.find? isLoose := by
  rw [nonFrozenNesting_of_collection collection unfrozen, looseAt_eq_guard,
    List.find?_eq_findSome?_guard]

/-! ## Offences -/

/-- A loose element of an unfrozen collection offends. -/
theorem offends_of_element {number : Nat} (collection : type.isCollection = true)
    (unfrozen : type.isFrozen = false) (stands : type.elements[number]? = some element)
    (loose : element.isLoose = true) : type.Offends [number] element where
  found := by
    rw [part?, stands]
    rfl
  loose := loose
  inside := List.cons_ne_nil number []
  exposed around before smaller := by
    have whole : around = [] := by
      rcases List.prefix_cons_iff.1 before with empty | ⟨rest, rfl, short⟩
      · exact empty
      · rw [List.prefix_nil.1 short] at smaller
        exact absurd rfl smaller
    exact ⟨type, by rw [whole, part?], collection, unfrozen⟩

/-- Around every offence, or at it, stands a loose element of the whole type, which is an unfrozen
collection. -/
theorem Offends.exists_element (offends : type.Offends place element) :
    type.isCollection = true ∧ type.isFrozen = false ∧
      ∃ number rest outer, place = number :: rest ∧ type.elements[number]? = some outer ∧
        outer.isLoose = true := by
  obtain ⟨number, rest, rfl⟩ := List.exists_cons_of_ne_nil offends.inside
  obtain ⟨whole, atWhole, collection, unfrozen⟩ :=
    offends.exposed [] List.nil_prefix (List.cons_ne_nil number rest).symm
  obtain rfl : type = whole := Option.some.inj atWhole
  have found := offends.found
  rw [part?] at found
  obtain ⟨outer, stands, below⟩ := Option.bind_eq_some_iff.1 found
  refine ⟨collection, unfrozen, number, rest, outer, rfl, stands, ?_⟩
  cases rest with
  | nil =>
    obtain rfl : outer = element := Option.some.inj below
    exact offends.loose
  | cons next rest =>
    obtain ⟨other, atOther, otherCollection, otherUnfrozen⟩ :=
      offends.exposed [number] (List.prefix_append [number] (next :: rest)) (by simp)
    rw [part?, stands] at atOther
    obtain rfl : outer = other := Option.some.inj atOther
    exact isLoose_of_collection otherCollection otherUnfrozen

/-- Neither a frozen type nor anything inside it offends. -/
theorem Offends.not_frozen (offends : type.Offends place element) {around : Place}
    {outer : DataType} (before : around <+: place) (stands : type.part? around = some outer) :
    outer.isFrozen = false := by
  by_cases same : around = place
  · have loose := offends.loose
    rw [same, offends.found] at stands
    obtain rfl := Option.some.inj stands
    simp only [isLoose, Bool.and_eq_true, Bool.not_eq_true'] at loose
    exact loose.2
  · obtain ⟨other, atOther, -, unfrozen⟩ := offends.exposed around before same
    rw [stands] at atOther
    obtain rfl := Option.some.inj atOther
    exact unfrozen

/-- There is only one first offence. -/
theorem FirstOffence.unique {other : Place} {inner : DataType}
    (offence : type.FirstOffence place element) (same : type.FirstOffence other inner) :
    inner = element := by
  have atPlace : place = other := List.le_antisymm (offence.first _ _ same.offends)
    (same.first _ _ offence.offends)
  have found := same.offends.found
  rw [← atPlace, offence.offends.found] at found
  exact (Option.some.inj found).symm

/-! ## What is reported -/

/-- What is found is the first offence, and stands directly in the type. -/
theorem firstOffence_of_nonFrozenNesting (found : type.nonFrozenNesting = some element) :
    ∃ number, type.FirstOffence [number] element := by
  obtain ⟨collection, unfrozen⟩ := collection_of_nonFrozenNesting found
  rw [nonFrozenNesting_eq_find? collection unfrozen, List.find?_eq_some_iff_getElem] at found
  obtain ⟨loose, number, bound, stands, earlier⟩ := found
  have atNumber : type.elements[number]? = some element := by
    rw [List.getElem?_eq_getElem bound, stands]
  refine ⟨number, offends_of_element collection unfrozen atNumber loose, ?_⟩
  intro other inner offends
  obtain ⟨-, -, position, rest, outer, rfl, atPosition, outerLoose⟩ := offends.exists_element
  obtain ⟨inBounds, rfl⟩ := List.getElem?_eq_some_iff.1 atPosition
  -- An element in front of the one that was found is not loose.
  have notBefore : number ≤ position := by
    refine Nat.le_of_not_lt fun before => ?_
    have tight := earlier position before
    rw [outerLoose] at tight
    cases tight
  intro before
  cases before with
  | rel less => exact Nat.not_lt_of_le notBefore less
  | cons short => cases short

/-- Nothing is found only where nothing offends. -/
theorem not_offends_of_nonFrozenNesting (missing : type.nonFrozenNesting = none) :
    ¬ type.Offends place element := by
  intro offends
  obtain ⟨collection, unfrozen, number, -, outer, -, stands, loose⟩ := offends.exists_element
  rw [nonFrozenNesting_eq_find? collection unfrozen, List.find?_eq_none] at missing
  exact missing outer (List.mem_of_getElem? stands) loose

/-- An element is reported exactly when it is the first offence of a type in written order, and
nothing is reported exactly when nothing offends; neither a frozen type nor anything inside it is
ever reported. -/
theorem reports_first_offence (type : DataType) :
    (∀ element, type.nonFrozenNesting = some element ↔
      ∃ place, type.FirstOffence place element) ∧
    (type.nonFrozenNesting = none ↔ ∀ place element, ¬ type.Offends place element) ∧
    ∀ around outer, type.part? around = some outer → outer.isFrozen = true →
      ∀ place, around <+: place → ∀ element, ¬ type.FirstOffence place element := by
  refine ⟨fun element => ⟨?_, ?_⟩, ⟨?_, ?_⟩, ?_⟩
  · intro found
    obtain ⟨number, offence⟩ := firstOffence_of_nonFrozenNesting found
    exact ⟨[number], offence⟩
  · rintro ⟨place, offence⟩
    cases reported : type.nonFrozenNesting with
    | none => exact absurd offence.offends (not_offends_of_nonFrozenNesting reported)
    | some inner =>
      obtain ⟨number, same⟩ := firstOffence_of_nonFrozenNesting reported
      rw [offence.unique same]
  · intro missing place element
    exact not_offends_of_nonFrozenNesting missing
  · intro clean
    rw [Option.eq_none_iff_forall_ne_some]
    intro element found
    obtain ⟨number, offence⟩ := firstOffence_of_nonFrozenNesting found
    exact clean [number] element offence.offends
  · intro around outer stands frozen place before element offence
    have unfrozen := offence.offends.not_frozen before stands
    rw [frozen] at unfrozen
    cases unfrozen

/-- Of two offences on either side of a map the first is reported, and not the set inside it; a
frozen key hides its own. -/
example :
    let inner : DataType := .list false (.set false (.scalar false .int))
    (DataType.map false inner (.user false ⟨0, "Point"⟩)).nonFrozenNesting = some inner ∧
      (DataType.map false (inner.withFrozen true) (.user false ⟨0, "Point"⟩)).nonFrozenNesting =
        some (.user false ⟨0, "Point"⟩) := by
  decide

end CqlSchema.DataType
