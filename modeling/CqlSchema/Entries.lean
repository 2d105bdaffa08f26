/-!
# Named entries

A mapping is a list of entries in the order in which its keys were first put. Putting a known
key again keeps its place and replaces its value; `settle` puts written entries one after the
other. `collect` does the same with entries that are checked first, each against those already
collected, and stops at the first fault. Where the check refuses known keys, what is collected
is what was written.
-/

namespace CqlSchema

/-- Entries of a written mapping, in written order. -/
abbrev Entries (α : Type) := List (String × α)

namespace Entries

variable {α φ : Type}

/-- Adds an entry: a known key keeps its place and takes the new value, a new key goes to the
end. -/
def put (entries : Entries α) (key : String) (value : α) : Entries α :=
  if entries.any fun entry => entry.1 == key then
    entries.map fun entry => if entry.1 == key then (key, value) else entry
  else entries ++ [(key, value)]

/-- Mapping that written entries amount to: each key once, at its first place, with its last
value. -/
def settle (entries : Entries α) : Entries α :=
  entries.foldl (fun settled entry => settled.put entry.1 entry.2) []

/-- Adds written entries to those already collected, each after it was checked against them. -/
def collect (fault? : Entries α → String × α → Option φ) (collected : Entries α) :
    Entries α → Except φ (Entries α)
  | [] => .ok collected
  | entry :: rest =>
    match fault? collected entry with
    | some fault => .error fault
    | none => collect fault? (collected.put entry.1 entry.2) rest

/-- A new key goes to the end. -/
theorem put_of_new {entries : Entries α} {key : String} (new : ∀ entry ∈ entries, entry.1 ≠ key)
    (value : α) : entries.put key value = entries ++ [(key, value)] := by
  have unknown : ¬ (entries.any fun entry => entry.1 == key) = true := by
    rw [List.any_eq_true]
    rintro ⟨entry, member, same⟩
    exact new entry member (beq_iff_eq.1 same)
  rw [put, if_neg unknown]

/-- Checks that let only new keys pass leave the written entries as they are, and each entry
passed with those before it already collected. -/
theorem collect_eq_ok {fault? : Entries α → String × α → Option φ}
    (new : ∀ collected entry, fault? collected entry = none →
      ∀ other ∈ collected, other.1 ≠ entry.1)
    {collected written result : Entries α}
    (passed : collect fault? collected written = .ok result) :
    result = collected ++ written ∧
      ∀ before entry after, written = before ++ entry :: after →
        fault? (collected ++ before) entry = none := by
  induction written generalizing collected with
  | nil =>
    simp only [collect, Except.ok.injEq] at passed
    subst passed
    simp
  | cons first rest ih =>
    unfold collect at passed
    split at passed
    · cases passed
    · rename_i clean
      rw [put_of_new (new collected first clean)] at passed
      obtain ⟨whole, later⟩ := ih passed
      refine ⟨by simp [whole], fun before entry after shape => ?_⟩
      cases before with
      | nil =>
        obtain ⟨rfl, rfl⟩ := List.cons.inj shape
        simpa using clean
      | cons head before =>
        obtain ⟨rfl, tail⟩ := List.cons.inj shape
        simpa using later before entry after tail

end Entries

end CqlSchema
