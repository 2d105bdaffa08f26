import CqlSchema.Plan.Apply
import Mathlib.Logic.Function.Basic
/-!
# Stores that execute statements

A store holds types and tables under their folded names. It refuses a statement that refers to a
type it does not have, leaves everything as it is when what the statement creates exists, and
otherwise records it. A call may also fail for reasons of its own; then the store stays as it
was. Statements that were executed once change nothing when they are executed again.
-/

namespace CqlSchema

/-- What a statement creates: a type or a table under its folded name. -/
inductive Creation where
  | type (name : String)
  | table (name : String)
  deriving Repr, DecidableEq

namespace Statement

/-- What a statement creates. -/
def creation : Statement → Creation
  | .createType _ type => .type (Text.fold type.name)
  | .createTable _ table => .table (Text.fold table.name)

/-- Handles that stand in the fields or columns of a statement, in order and with repetitions. -/
def handles : Statement → List Handle
  | .createType _ type => type.dependencies
  | .createTable _ table => table.userTypes

/-- Folded names of the types that a statement refers to. -/
def references (statement : Statement) : List String :=
  statement.handles.map fun handle => Text.fold handle.name

end Statement

/-- Types and tables under their folded names. -/
structure Store where
  types : String → Option UserType
  tables : String → Option Table

namespace Store

/-- Store without types and tables. -/
def empty : Store := ⟨fun _ => none, fun _ => none⟩

/-- Decides whether something exists. -/
def has (store : Store) : Creation → Bool
  | .type name => (store.types name).isSome
  | .table name => (store.tables name).isSome

/-- Store in which what a statement creates is recorded. -/
def record (store : Store) : Statement → Store
  | .createType _ type =>
    { store with types := Function.update store.types (Text.fold type.name) (some type) }
  | .createTable _ table =>
    { store with tables := Function.update store.tables (Text.fold table.name) (some table) }

/-- Store after a statement: what exists stays as it is, and what does not is recorded. -/
def accept (store : Store) (statement : Statement) : Store :=
  if store.has statement.creation then store else store.record statement

/-- Store after statements, one after the other. -/
def acceptAll (store : Store) (statements : List Statement) : Store :=
  statements.foldl accept store

/-- First type that a statement refers to and the store does not have. -/
def missing? (store : Store) (statement : Statement) : Option String :=
  statement.references.find? fun name => !store.has (.type name)

/-- Failures of a call, with those that are not the store's as `ε`. -/
inductive Failure (ε : Type) where
  | missingType (name : String)
  | unreadable
  | fault (source : ε)
  deriving Repr, DecidableEq

variable {ε : Type}

/-- Answer to a text, and the store afterwards; a fault keeps the text from the store, which
reads every other text and refuses what it cannot read. -/
def respond (read : String → Option Statement) (store : Store) (fault : Option ε)
    (text : String) : Except (Failure ε) Unit × Store :=
  match fault with
  | some source => (.error (.fault source), store)
  | none =>
    match read text with
    | none => (.error .unreadable, store)
    | some statement =>
      match store.missing? statement with
      | some name => (.error (.missingType name), store)
      | none => (.ok (), store.accept statement)

/-- Calls none of which fails. -/
def reliable (ε : Type) : Nat → Option ε :=
  fun _ => none

/-- Executor in front of a store. It counts the calls, and `fails` tells which of them fail. -/
def execute (read : String → Option Statement) (fails : Nat → Option ε) (text : String) :
    StateM (Store × Nat) (Except (Failure ε) Unit) :=
  fun (store, calls) =>
    let (answer, after) := store.respond read (fails calls) text
    (answer, (after, calls + 1))

/-! ## What is recorded -/

/-- After a statement there is what it creates, and all that there was before. -/
theorem has_accept_iff {store : Store} {statement : Statement} {creation : Creation} :
    (store.accept statement).has creation = true ↔
      store.has creation = true ∨ creation = statement.creation := by
  unfold accept
  split
  · rename_i known
    constructor
    · exact .inl
    · rintro (old | rfl)
      · exact old
      · exact known
  · cases statement with
    | createType keyspace type =>
      cases creation with
      | type name =>
        simp only [record, has, Statement.creation, Function.update_apply, Creation.type.injEq]
        by_cases same : name = Text.fold type.name <;> simp [same]
      | table name => simp [record, has, Statement.creation]
    | createTable keyspace table =>
      cases creation with
      | type name => simp [record, has, Statement.creation]
      | table name =>
        simp only [record, has, Statement.creation, Function.update_apply, Creation.table.injEq]
        by_cases same : name = Text.fold table.name <;> simp [same]

/-- After statements there is what they create, and all that there was before. -/
theorem has_acceptAll_iff {store : Store} {statements : List Statement} {creation : Creation} :
    (store.acceptAll statements).has creation = true ↔
      store.has creation = true ∨ ∃ statement ∈ statements, creation = statement.creation := by
  induction statements generalizing store with
  | nil => simp [acceptAll]
  | cons statement rest ih =>
    have step := @ih (store.accept statement)
    rw [has_accept_iff, or_assoc] at step
    simp only [List.mem_cons, exists_eq_or_imp]
    exact step

/-- Statements that create only what exists change nothing. -/
theorem acceptAll_of_has {store : Store} {statements : List Statement}
    (known : ∀ statement ∈ statements, store.has statement.creation = true) :
    store.acceptAll statements = store := by
  induction statements with
  | nil => rfl
  | cons statement rest ih =>
    obtain ⟨first, others⟩ := List.forall_mem_cons.1 known
    have same : store.accept statement = store := if_pos first
    show (store.accept statement).acceptAll rest = store
    rw [same]
    exact ih others

/-- Statements of which the first were executed before lead to the same store as once. -/
theorem acceptAll_again (store : Store) (first rest : List Statement) :
    (store.acceptAll first).acceptAll (first ++ rest) = store.acceptAll (first ++ rest) := by
  have known : ∀ statement ∈ first, (store.acceptAll first).has statement.creation = true := by
    intro statement member
    exact has_acceptAll_iff.2 (.inr ⟨statement, member, rfl⟩)
  have repeated : (store.acceptAll first).acceptAll first = store.acceptAll first :=
    acceptAll_of_has known
  calc (store.acceptAll first).acceptAll (first ++ rest)
      = ((store.acceptAll first).acceptAll first).acceptAll rest := List.foldl_append
    _ = (store.acceptAll first).acceptAll rest := by rw [repeated]
    _ = store.acceptAll (first ++ rest) := List.foldl_append.symm

/-- No type is missing when every type that a statement refers to exists. -/
theorem missing?_eq_none {store : Store} {statement : Statement}
    (present : ∀ name ∈ statement.references, store.has (.type name) = true) :
    store.missing? statement = none := by
  rw [missing?, List.find?_eq_none]
  intro name member
  rw [present name member]
  decide

end Store

end CqlSchema
