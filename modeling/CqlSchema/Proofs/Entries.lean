import CqlSchema.Entries
import CqlSchema.Identifier
import CqlSchema.Text.Fold
import Mathlib.Data.List.Nodup
import Mathlib.Data.List.Perm.Subperm
/-!
# Names of collected entries

Fields and columns are collected by checks that share two demands: a name is an identifier, and
it differs from the names before it even when the case of letters is ignored. What passes such
checks is well named, and it is what was written. A settled mapping repeats no key, so an entry is
lost exactly where a key was written twice.
-/

namespace CqlSchema.Entries

variable {α φ : Type}

/-- Values that differ stay so when a new one joins them at the end. -/
theorem nodup_map_concat {items : List α} {item : α} {key : α → φ}
    (distinct : (items.map key).Nodup) (new : ∀ other ∈ items, key other ≠ key item) :
    ((items ++ [item]).map key).Nodup := by
  rw [List.map_append, List.nodup_append]
  refine ⟨distinct, List.nodup_singleton _, ?_⟩
  intro old oldMember joined joinedMember
  obtain ⟨other, member, rfl⟩ := List.mem_map.1 oldMember
  obtain rfl := List.mem_singleton.1 joinedMember
  exact new other member

/-- Names are identifiers and differ pairwise, also when the case of letters is ignored. -/
structure WellNamed (entries : Entries α) : Prop where
  /-- Every name is an identifier. -/
  identifiers : ∀ entry ∈ entries, isIdentifier entry.1 = true
  /-- No two names fold to the same text. -/
  distinct : (entries.map fun entry => Text.fold entry.1).Nodup

/-- Checks that let through only identifiers whose folded text is new. -/
def ChecksNames (fault? : Entries α → String × α → Option φ) : Prop :=
  ∀ collected entry, fault? collected entry = none →
    isIdentifier entry.1 = true ∧ ∀ other ∈ collected, Text.fold other.1 ≠ Text.fold entry.1

/-- Entries are well named when each is checked against those before it. -/
theorem wellNamed_of_checks {fault? : Entries α → String × α → Option φ}
    (checks : ChecksNames fault?) {written : Entries α}
    (clean : ∀ before entry after, written = before ++ entry :: after →
      fault? before entry = none) : WellNamed written := by
  constructor
  · intro entry member
    obtain ⟨before, after, shape⟩ := List.append_of_mem member
    exact (checks before entry (clean before entry after shape)).1
  · rw [List.Nodup, List.pairwise_map, List.pairwise_iff_getElem]
    intro i j iBound jBound ordered
    have shape : written = written.take j ++ written[j] :: written.drop (j + 1) := by simp
    have passed := (checks _ _ (clean _ _ _ shape)).2
    refine passed written[i] ?_
    rw [List.mem_take_iff_getElem]
    exact ⟨i, by omega, rfl⟩

/-- In well-named entries no name folds to the same text as one before it. -/
theorem WellNamed.ne_of_earlier {entries before after : Entries α} {entry : String × α}
    (wellNamed : entries.WellNamed) (shape : entries = before ++ entry :: after) :
    ∀ other ∈ before, Text.fold other.1 ≠ Text.fold entry.1 := by
  intro other member
  have distinct := wellNamed.distinct
  rw [shape, List.map_append, List.nodup_append] at distinct
  exact distinct.2.2 _ (List.mem_map_of_mem member) _ (List.mem_map_of_mem List.mem_cons_self)

/-- Putting entries with new and different keys one after the other adds them at the end. -/
theorem foldl_put_of_nodup {settled entries : Entries α}
    (distinct : ((settled ++ entries).map Prod.fst).Nodup) :
    entries.foldl (fun settled entry => settled.put entry.1 entry.2) settled =
      settled ++ entries := by
  induction entries generalizing settled with
  | nil => exact (List.append_nil settled).symm
  | cons entry rest ih =>
    have new : ∀ other ∈ settled, other.1 ≠ entry.1 := by
      intro other member
      rw [List.map_append, List.nodup_append] at distinct
      exact distinct.2.2 _ (List.mem_map_of_mem member) _
        (List.mem_map_of_mem List.mem_cons_self)
    rw [List.append_cons] at distinct ⊢
    rw [List.foldl_cons, put_of_new new]
    exact ih distinct

/-! ## Settled mappings -/

/-- What is in a mapping after a put was there before or was put. -/
theorem mem_of_mem_put {entries : Entries α} {key : String} {value : α} {entry : String × α}
    (member : entry ∈ entries.put key value) : entry ∈ entries ∨ entry = (key, value) := by
  unfold put at member
  split at member
  · obtain ⟨old, oldMember, replaced⟩ := List.mem_map.1 member
    split at replaced
    · exact .inr replaced.symm
    · exact .inl (replaced ▸ oldMember)
  · rcases List.mem_append.1 member with old | new
    · exact .inl old
    · exact .inr (List.mem_singleton.1 new)

/-- A put repeats no key. -/
theorem nodup_keys_put {entries : Entries α} (distinct : (entries.map Prod.fst).Nodup)
    (key : String) (value : α) : ((entries.put key value).map Prod.fst).Nodup := by
  unfold put
  split
  · have keys : (entries.map fun entry => if entry.1 == key then (key, value) else entry).map
        Prod.fst = entries.map Prod.fst := by
      rw [List.map_map]
      refine List.map_congr_left fun entry _ => ?_
      by_cases same : entry.1 = key
      · simp [same]
      · simp [same]
    rw [keys]
    exact distinct
  · rename_i unknown
    refine nodup_map_concat distinct fun other member same => unknown ?_
    exact List.any_eq_true.2 ⟨other, member, beq_iff_eq.2 same⟩

/-- Putting entries one after the other repeats no key. -/
theorem nodup_keys_foldl_put {settled entries : Entries α}
    (distinct : (settled.map Prod.fst).Nodup) :
    ((entries.foldl (fun settled entry => settled.put entry.1 entry.2) settled).map
      Prod.fst).Nodup := by
  induction entries generalizing settled with
  | nil => exact distinct
  | cons entry rest ih => exact ih (nodup_keys_put distinct entry.1 entry.2)

/-- What is in a mapping after entries were put one after the other was there before or is one of
them. -/
theorem mem_of_mem_foldl_put {settled entries : Entries α} {entry : String × α}
    (member : entry ∈ entries.foldl (fun settled entry => settled.put entry.1 entry.2) settled) :
    entry ∈ settled ∨ entry ∈ entries := by
  induction entries generalizing settled with
  | nil => exact .inl member
  | cons first rest ih =>
    rcases ih member with put | later
    · rcases mem_of_mem_put put with old | rfl
      · exact .inl old
      · exact .inr List.mem_cons_self
    · exact .inr (List.mem_cons_of_mem _ later)

/-- No key of a settled mapping is repeated. -/
theorem nodup_keys_settle (entries : Entries α) : (entries.settle.map Prod.fst).Nodup :=
  nodup_keys_foldl_put List.nodup_nil

/-- Every entry of a settled mapping was written. -/
theorem mem_of_mem_settle {entries : Entries α} {entry : String × α}
    (member : entry ∈ entries.settle) : entry ∈ entries :=
  (mem_of_mem_foldl_put member).resolve_left List.not_mem_nil

/-- Mappings with different keys are settled. -/
theorem settle_eq_self {entries : Entries α} (distinct : (entries.map Prod.fst).Nodup) :
    entries.settle = entries :=
  foldl_put_of_nodup distinct

/-- A key that none of the first entries has is put among the later ones. -/
theorem put_append {first : Entries α} {key : String} (new : ∀ entry ∈ first, entry.1 ≠ key)
    (later : Entries α) (value : α) :
    (first ++ later).put key value = first ++ later.put key value := by
  have unknown : (first.any fun entry => entry.1 == key) = false := by
    rw [List.any_eq_false]
    intro entry member same
    exact new entry member (beq_iff_eq.1 same)
  have kept : (first.map fun entry => if entry.1 == key then (key, value) else entry) = first := by
    refine (List.map_congr_left fun entry member => ?_).trans (List.map_id first)
    exact if_neg fun same => new entry member (beq_iff_eq.1 same)
  unfold put
  rw [List.any_append, unknown, Bool.false_or, List.map_append, kept]
  split
  · rfl
  · rw [List.append_assoc]

/-- Entries whose keys none of the first ones has are put among the later ones. -/
theorem foldl_put_append {first : Entries α} (later : Entries α) {entries : Entries α}
    (new : ∀ entry ∈ entries, ∀ other ∈ first, other.1 ≠ entry.1) :
    entries.foldl (fun settled entry => settled.put entry.1 entry.2) (first ++ later) =
      first ++ entries.foldl (fun settled entry => settled.put entry.1 entry.2) later := by
  induction entries generalizing later with
  | nil => rfl
  | cons entry rest ih =>
    obtain ⟨entryNew, restNew⟩ := List.forall_mem_cons.1 new
    rw [List.foldl_cons, List.foldl_cons, put_append entryNew]
    exact ih _ restNew

/-- Mappings without a common key are settled each by itself. -/
theorem settle_append {first second : Entries α}
    (disjoint : List.Disjoint (first.map Prod.fst) (second.map Prod.fst)) :
    settle (first ++ second) = settle first ++ settle second := by
  have new : ∀ entry ∈ second, ∀ other ∈ settle first, other.1 ≠ entry.1 := by
    intro entry member other settled same
    have written : other.1 ∈ first.map Prod.fst := List.mem_map_of_mem (mem_of_mem_settle settled)
    exact disjoint written (same ▸ List.mem_map_of_mem member)
  have joined := foldl_put_append [] new
  rw [List.append_nil] at joined
  rw [settle, List.foldl_append]
  exact joined

/-- Entries keep their keys when only their values change. -/
theorem keys_map {β : Type} (change : α → β) (entries : Entries α) :
    (entries.map fun entry => (entry.1, change entry.2)).map Prod.fst = entries.map Prod.fst := by
  rw [List.map_map]
  rfl

/-- A mapping loses an entry when it is settled, unless its keys are all different. -/
theorem length_settle_eq_iff {entries : Entries α} :
    entries.settle.length = entries.length ↔ (entries.map Prod.fst).Nodup := by
  constructor
  · intro same
    have contained : entries.settle.map Prod.fst ⊆ entries.map Prod.fst :=
      List.map_subset _ fun entry member => mem_of_mem_settle member
    have part := List.subperm_of_subset (nodup_keys_settle entries) contained
    have lengths : (entries.map Prod.fst).length ≤ (entries.settle.map Prod.fst).length := by
      rw [List.length_map, List.length_map]
      exact Nat.le_of_eq same.symm
    exact (part.perm_of_length_le lengths).nodup_iff.1 (nodup_keys_settle entries)
  · intro distinct
    rw [settle_eq_self distinct]

/-- Items that are described under names which differ when folded make a settled mapping. -/
theorem settle_described {β : Type} {items : List α} (describe : α → String × β)
    (distinct : (items.map fun item => Text.fold (describe item).1).Nodup) :
    settle (items.map describe) = items.map describe := by
  refine settle_eq_self ?_
  have folded : ((items.map describe).map Prod.fst).map Text.fold =
      items.map fun item => Text.fold (describe item).1 := by
    rw [List.map_map, List.map_map]
    rfl
  exact List.Nodup.of_map _ (folded ▸ distinct)

/-- What is collected from nothing under such checks is what was written, it is well named, and
each entry passed against those before it. -/
theorem collect_wellNamed {fault? : Entries α → String × α → Option φ}
    (checks : ChecksNames fault?) {written result : Entries α}
    (passed : collect fault? [] written = .ok result) :
    result = written ∧ WellNamed written ∧
      ∀ before entry after, written = before ++ entry :: after →
        fault? before entry = none := by
  have new : ∀ collected entry, fault? collected entry = none →
      ∀ other ∈ collected, other.1 ≠ entry.1 := by
    intro collected entry clean other member same
    exact (checks collected entry clean).2 other member (congrArg Text.fold same)
  obtain ⟨whole, clean⟩ := collect_eq_ok new passed
  simp only [List.nil_append] at whole clean
  exact ⟨whole, wellNamed_of_checks checks clean, clean⟩

/-- Written entries that each pass the check with those before them are collected. -/
theorem collect_of_clean {fault? : Entries α → String × α → Option φ}
    (checks : ChecksNames fault?) {collected written : Entries α}
    (clean : ∀ before entry after, written = before ++ entry :: after →
      fault? (collected ++ before) entry = none) :
    collect fault? collected written = .ok (collected ++ written) := by
  induction written generalizing collected with
  | nil => rw [collect, List.append_nil]
  | cons entry rest ih =>
    have passes : fault? collected entry = none := by
      have first := clean [] entry rest rfl
      rwa [List.append_nil] at first
    have new : ∀ other ∈ collected, other.1 ≠ entry.1 := by
      intro other member same
      exact (checks collected entry passes).2 other member (congrArg Text.fold same)
    rw [collect, passes]
    show collect fault? (collected.put entry.1 entry.2) rest = .ok (collected ++ entry :: rest)
    rw [put_of_new new, List.append_cons collected entry rest]
    refine ih fun before later after shape => ?_
    have passesLater := clean (entry :: before) later after (by rw [shape]; rfl)
    rwa [List.append_cons] at passesLater

/-! ## Changed values -/

section Changed

variable {β : Type} {change : α → β}

/-- A changed value is put where the value is put. -/
theorem put_map (entries : Entries α) (key : String) (value : α) :
    put (entries.map (Prod.map id change)) key (change value) =
      (entries.put key value).map (Prod.map id change) := by
  have known : ((entries.map (Prod.map id change)).any fun entry => entry.1 == key) =
      entries.any fun entry => entry.1 == key := by
    rw [List.any_map]
    rfl
  unfold put
  rw [known]
  split
  · rw [List.map_map, List.map_map]
    refine List.map_congr_left fun entry _ => ?_
    show (if entry.1 == key then _ else _) = Prod.map id change (if entry.1 == key then _ else _)
    split <;> rfl
  · rw [List.map_append]
    rfl

/-- Entries with changed values are collected alike when they are checked alike. -/
theorem collect_map {fault? : Entries α → String × α → Option φ}
    {changedFault? : Entries β → String × β → Option φ}
    (same : ∀ collected entry, changedFault? (collected.map (Prod.map id change))
      (Prod.map id change entry) = fault? collected entry)
    (collected written : Entries α) :
    collect changedFault? (collected.map (Prod.map id change))
        (written.map (Prod.map id change)) =
      (collect fault? collected written).map (List.map (Prod.map id change)) := by
  induction written generalizing collected with
  | nil => rfl
  | cons entry rest ih =>
    rw [List.map_cons, collect, collect, same]
    cases fault? collected entry with
    | some fault => rfl
    | none =>
      show collect changedFault? (put _ entry.1 (change entry.2)) _ = _
      rw [put_map]
      exact ih _

end Changed

end CqlSchema.Entries
