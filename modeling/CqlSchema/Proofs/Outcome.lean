import Mathlib.Data.List.Forall2
/-!
# Outcomes

A chain of steps that may fail succeeds exactly when every step of it does, and so does one step
that is taken for every item of a list. The outputs then go together with the items. Such a chain
fails with the first fault that it meets: `IsFirst` names the first item of a list with a property.
-/

namespace CqlSchema.Outcome

variable {ε α β : Type}

/-- Two steps in a row succeed exactly when the first does and the second does after it. -/
theorem bind_eq_ok {first : Except ε α} {second : α → Except ε β} {result : β} :
    first >>= second = .ok result ↔ ∃ value, first = .ok value ∧ second value = .ok result := by
  cases first with
  | error fault =>
    constructor
    · intro succeeded
      cases succeeded
    · rintro ⟨value, succeeded, -⟩
      cases succeeded
  | ok value =>
    constructor
    · intro succeeded
      exact ⟨value, rfl, succeeded⟩
    · rintro ⟨other, same, succeeded⟩
      cases same
      exact succeeded

/-- Two steps in a row fail exactly when the first does or the second does after it. -/
theorem bind_eq_error {first : Except ε α} {second : α → Except ε β} {fault : ε} :
    first >>= second = .error fault ↔
      first = .error fault ∨ ∃ value, first = .ok value ∧ second value = .error fault := by
  cases first with
  | error other =>
    constructor
    · intro failed
      cases failed
      exact .inl rfl
    · rintro (failed | ⟨value, succeeded, -⟩)
      · cases failed
        rfl
      · cases succeeded
  | ok value =>
    constructor
    · intro failed
      exact .inr ⟨value, rfl, failed⟩
    · rintro (failed | ⟨other, succeeded, failed⟩)
      · cases failed
      · cases succeeded
        exact failed

/-- A step that gives every item of a list back from its image gives the list back. -/
theorem mapM_map_eq_ok {step : β → Except ε α} {image : α → β} {items : List α}
    (back : ∀ item ∈ items, step (image item) = .ok item) :
    (items.map image).mapM step = .ok items := by
  induction items with
  | nil => rfl
  | cons item rest ih =>
    obtain ⟨first, others⟩ := List.forall_mem_cons.1 back
    rw [List.map_cons, List.mapM_cons]
    exact bind_eq_ok.2 ⟨item, first, bind_eq_ok.2 ⟨rest, ih others, rfl⟩⟩

/-- A step that only changes the results of another one does so for every item of a list. -/
theorem mapM_map {γ : Type} {step : α → Except ε β} {changed : α → Except ε γ} {change : β → γ}
    (same : ∀ item, changed item = (step item).map change) (items : List α) :
    items.mapM changed = (items.mapM step).map (List.map change) := by
  induction items with
  | nil => rfl
  | cons item rest ih =>
    rw [List.mapM_cons, List.mapM_cons, same, ih]
    cases step item with
    | error fault => rfl
    | ok output =>
      cases rest.mapM step with
      | error fault => rfl
      | ok outputs => rfl

/-- A step that is taken for every item of a list succeeds exactly with the outputs of the single
items, in order. -/
theorem mapM_eq_ok_iff_forall₂ {step : α → Except ε β} {items : List α} {outputs : List β} :
    items.mapM step = .ok outputs ↔
      List.Forall₂ (fun item output => step item = .ok output) items outputs := by
  induction items generalizing outputs with
  | nil =>
    constructor
    · intro succeeded
      cases succeeded
      exact .nil
    · intro all
      cases all
      rfl
  | cons item rest ih =>
    rw [List.mapM_cons]
    constructor
    · intro succeeded
      obtain ⟨output, first, remaining⟩ := bind_eq_ok.1 succeeded
      obtain ⟨others, later, done⟩ := bind_eq_ok.1 remaining
      cases done
      exact .cons first (ih.1 later)
    · intro all
      cases all with
      | cons first later =>
        exact bind_eq_ok.2 ⟨_, first, bind_eq_ok.2 ⟨_, ih.2 later, rfl⟩⟩

/-! ## Lists that go together -/

/-- Lists that agree pairwise in what is taken of their items agree in all of it. -/
theorem map_eq_of_forall₂ {γ : Type} {relation : α → β → Prop} {first : α → γ} {second : β → γ}
    (same : ∀ item other, relation item other → first item = second other) {items : List α}
    {others : List β} (each : List.Forall₂ relation items others) :
    items.map first = others.map second := by
  rw [← List.forall₂_eq_eq_eq, List.forall₂_map_left_iff, List.forall₂_map_right_iff]
  exact each.imp same

/-- Of two lists that go together with a third one, the second is the first one changed when single
items are. -/
theorem map_eq_of_both {γ : Type} {relation : α → β → Prop} {another : α → γ → Prop}
    {change : β → γ} {items : List α} {firsts : List β} {seconds : List γ}
    (same : ∀ item first, ∀ second ∈ seconds, relation item first → another item second →
      change first = second)
    (each : List.Forall₂ relation items firsts) (eachOther : List.Forall₂ another items seconds) :
    firsts.map change = seconds := by
  induction each generalizing seconds with
  | nil =>
    cases eachOther
    rfl
  | cons related _ ih =>
    cases eachOther with
    | cons otherRelated others =>
      rw [List.map_cons, same _ _ _ List.mem_cons_self related otherRelated]
      refine congrArg (List.cons _) (ih (fun item first second member => ?_) others)
      exact same item first second (List.mem_cons_of_mem _ member)

/-- What the items of a list show of those that they go with holds of all of these. -/
theorem forall_of_forall₂ {relation : α → β → Prop} {property : α → Prop} {items : List α}
    {others : List β} (each : List.Forall₂ relation items others)
    (shown : ∀ item, ∀ other ∈ others, relation item other → property item) :
    ∀ item ∈ items, property item := by
  induction each with
  | nil => exact List.forall_mem_nil _
  | cons related _ ih =>
    obtain ⟨first, rest⟩ := List.forall_mem_cons.1 fun other member item => shown item other member
    refine List.forall_mem_cons.2 ⟨first _ related, ih ?_⟩
    exact fun item other member => rest other member item

/-! ## First items -/

/-- An item is the first of a list with a property, and `after` follows it. -/
def IsFirst (property : α → Prop) (items : List α) (item : α) (after : List α) : Prop :=
  ∃ before, items = before ++ item :: after ∧ property item ∧
    ∀ earlier ∈ before, ¬ property earlier

/-- The first item with a property is an item with it. -/
theorem IsFirst.mem_and_holds {property : α → Prop} {items after : List α} {item : α}
    (first : IsFirst property items item after) : item ∈ items ∧ property item := by
  obtain ⟨before, rfl, holds, -⟩ := first
  exact ⟨by simp, holds⟩

/-- The first item stays the first when further items follow. -/
theorem IsFirst.append {property : α → Prop} {items after : List α} {item : α}
    (first : IsFirst property items item after) (more : List α) :
    IsFirst property (items ++ more) item (after ++ more) := by
  obtain ⟨before, rfl, holds, clean⟩ := first
  exact ⟨before, by rw [List.append_assoc, List.cons_append], holds, clean⟩

/-- The first item is found by looking for it. -/
theorem find?_eq_some_iff_isFirst {test : α → Bool} {items : List α} {item : α} :
    items.find? test = some item ↔ ∃ after, IsFirst (test · = true) items item after := by
  rw [List.find?_eq_some_iff_append]
  simp only [IsFirst, Bool.not_eq_true', Bool.not_eq_true]
  constructor
  · rintro ⟨holds, before, after, split, clean⟩
    exact ⟨after, before, split, holds, clean⟩
  · rintro ⟨after, before, split, holds, clean⟩
    exact ⟨holds, before, after, split, clean⟩

/-- The first item of a longer list is its head or the first of the others. -/
theorem isFirst_cons {property : α → Prop} {head : α} {rest : List α} {item : α}
    {after : List α} :
    IsFirst property (head :: rest) item after ↔
      (property head ∧ item = head ∧ after = rest) ∨
        (¬ property head ∧ IsFirst property rest item after) := by
  constructor
  · rintro ⟨before, split, holds, clean⟩
    cases before with
    | nil =>
      obtain ⟨rfl, rfl⟩ := List.cons.inj split
      exact .inl ⟨holds, rfl, rfl⟩
    | cons first before =>
      obtain ⟨rfl, rfl⟩ := List.cons.inj split
      obtain ⟨headClean, restClean⟩ := List.forall_mem_cons.1 clean
      exact .inr ⟨headClean, before, rfl, holds, restClean⟩
  · rintro (⟨holds, rfl, rfl⟩ | ⟨headClean, before, rfl, holds, clean⟩)
    · exact ⟨[], rfl, holds, by simp⟩
    · exact ⟨head :: before, rfl, holds, List.forall_mem_cons.2 ⟨headClean, clean⟩⟩

/-- A list has one first item with a property only. -/
theorem IsFirst.unique {property : α → Prop} {items after otherAfter : List α} {item other : α}
    (first : IsFirst property items item after)
    (otherFirst : IsFirst property items other otherAfter) : item = other := by
  induction items with
  | nil =>
    obtain ⟨before, split, -⟩ := first
    cases before <;> cases split
  | cons head rest ih =>
    rcases isFirst_cons.1 first with ⟨holds, rfl, -⟩ | ⟨fails, later⟩
    · rcases isFirst_cons.1 otherFirst with ⟨-, rfl, -⟩ | ⟨fails, -⟩
      · rfl
      · exact absurd holds fails
    · rcases isFirst_cons.1 otherFirst with ⟨holds, -⟩ | ⟨-, otherLater⟩
      · exact absurd holds fails
      · exact ih later otherLater

/-- There is a first item with a property exactly when there is an item with it. -/
theorem exists_isFirst_iff {property : α → Prop} {items : List α} :
    (∃ item after, IsFirst property items item after) ↔ ∃ item ∈ items, property item := by
  induction items with
  | nil => simp [IsFirst]
  | cons head rest ih =>
    simp only [isFirst_cons, List.mem_cons, exists_eq_or_imp]
    constructor
    · rintro ⟨item, after, ⟨holds, -, -⟩ | ⟨-, first⟩⟩
      · exact .inl holds
      · exact .inr (ih.1 ⟨item, after, first⟩)
    · intro present
      by_cases holds : property head
      · exact ⟨head, rest, .inl ⟨holds, rfl, rfl⟩⟩
      · obtain ⟨item, after, first⟩ := ih.2 (present.resolve_left holds)
        exact ⟨item, after, .inr ⟨holds, first⟩⟩

/-- A step that is taken for every item of a list fails with the fault of the first item on which
it fails. -/
theorem mapM_eq_error {step : α → Except ε β} {items : List α} {fault : ε} :
    items.mapM step = .error fault ↔
      ∃ item after, IsFirst (fun item => ∃ fault, step item = .error fault) items item after ∧
        step item = .error fault := by
  induction items with
  | nil =>
    constructor
    · intro failed
      cases failed
    · rintro ⟨item, after, ⟨before, split, -⟩, -⟩
      cases before <;> cases split
  | cons head rest ih =>
    rw [List.mapM_cons, bind_eq_error]
    simp only [isFirst_cons]
    constructor
    · rintro (failed | ⟨output, succeeded, remaining⟩)
      · exact ⟨head, rest, .inl ⟨⟨fault, failed⟩, rfl, rfl⟩, failed⟩
      · have headClean : ¬ ∃ fault, step head = .error fault := by
          rintro ⟨other, failed⟩
          rw [succeeded] at failed
          cases failed
        rcases bind_eq_error.1 remaining with restFailed | ⟨others, -, done⟩
        · obtain ⟨item, after, first, failed⟩ := ih.1 restFailed
          exact ⟨item, after, .inr ⟨headClean, first⟩, failed⟩
        · cases done
    · rintro ⟨item, after, ⟨-, rfl, -⟩ | ⟨headClean, first⟩, failed⟩
      · exact .inl failed
      · cases outcome : step head with
        | error other => exact absurd ⟨other, outcome⟩ headClean
        | ok output =>
          refine .inr ⟨output, rfl, bind_eq_error.2 (.inl ?_)⟩
          exact ih.2 ⟨item, after, first, failed⟩

/-- A state that every item of a list changes in turn is lost with the fault of the first item that
does not change the state that it finds. -/
theorem foldlM_eq_error {step : β → α → Except ε β} {start : β} {items : List α} {fault : ε} :
    items.foldlM step start = .error fault ↔
      ∃ before item after middle, items = before ++ item :: after ∧
        before.foldlM step start = .ok middle ∧ step middle item = .error fault := by
  induction items generalizing start with
  | nil =>
    constructor
    · intro failed
      cases failed
    · rintro ⟨before, item, after, middle, split, -⟩
      cases before <;> cases split
  | cons head rest ih =>
    rw [List.foldlM_cons, bind_eq_error]
    constructor
    · rintro (failed | ⟨next, changed, remaining⟩)
      · exact ⟨[], head, rest, start, rfl, rfl, failed⟩
      · obtain ⟨before, item, after, middle, rfl, taken, failed⟩ := ih.1 remaining
        refine ⟨head :: before, item, after, middle, rfl, ?_, failed⟩
        exact bind_eq_ok.2 ⟨next, changed, taken⟩
    · rintro ⟨before, item, after, middle, split, taken, failed⟩
      cases before with
      | nil =>
        obtain ⟨rfl, rfl⟩ := List.cons.inj split
        cases taken
        exact .inl failed
      | cons first before =>
        obtain ⟨rfl, rfl⟩ := List.cons.inj split
        obtain ⟨next, changed, later⟩ := bind_eq_ok.1 taken
        exact .inr ⟨next, changed, ih.2 ⟨before, item, after, middle, rfl, later, failed⟩⟩

/-! ## Changed outcomes -/

/-- A result that is changed afterwards succeeds exactly when there was a result. -/
theorem map_eq_ok {outcome : Except ε α} {change : α → β} {result : β} :
    outcome.map change = .ok result ↔ ∃ value, outcome = .ok value ∧ change value = result := by
  constructor
  · intro succeeded
    cases outcome with
    | error fault => cases succeeded
    | ok value =>
      cases succeeded
      exact ⟨value, rfl, rfl⟩
  · rintro ⟨value, rfl, rfl⟩
    rfl

/-- A result that is changed afterwards fails exactly as before. -/
theorem map_eq_error {outcome : Except ε α} {change : α → β} {fault : ε} :
    outcome.map change = .error fault ↔ outcome = .error fault := by
  constructor
  · intro failed
    cases outcome with
    | error other =>
      cases failed
      rfl
    | ok value => cases failed
  · rintro rfl
    rfl

/-- Another wording of a failure changes no success. -/
theorem mapError_eq_ok {outcome : Except ε α} {reword : ε → β} {result : α} :
    outcome.mapError reword = .ok result ↔ outcome = .ok result := by
  constructor
  · intro succeeded
    cases outcome with
    | error fault => cases succeeded
    | ok value =>
      cases succeeded
      rfl
  · rintro rfl
    rfl

/-- Another wording of a failure is that of the failure. -/
theorem mapError_eq_error {outcome : Except ε α} {reword : ε → β} {fault : β} :
    outcome.mapError reword = .error fault ↔
      ∃ other, outcome = .error other ∧ reword other = fault := by
  constructor
  · intro failed
    cases outcome with
    | error other =>
      cases failed
      exact ⟨other, rfl, rfl⟩
    | ok value => cases failed
  · rintro ⟨other, rfl, rfl⟩
    rfl

end CqlSchema.Outcome
