import CqlSchema.Proofs.Plan.Synthesis
import CqlSchema.Proofs.Statement
/-!
# Plans in several keyspaces

What tables require is found without a keyspace, and every statement has the keyspace in one place,
behind its first words. So the plans of the same tables in two valid keyspaces fail together, and
otherwise they are each other's transcripts.
-/

namespace CqlSchema

open Outcome

namespace Statement

/-- Text of a statement after its keyspace. -/
def ending (statement : Statement) : String :=
  "." ++ statement.name ++ "(" ++ statement.body

/-- The keyspace of a statement stands between its first words and the rest. -/
theorem text_eq_ending (statement : Statement) :
    statement.text = statement.opening ++ statement.keyspace ++ statement.ending := by
  rw [text_eq, ending]
  simp only [String.append_assoc]

end Statement

/-! ## Transcripts -/

/-- Two texts that differ at most in the keyspace behind the same first words. -/
def Transcribed (opening keyspace other : String) (text copy : String) : Prop :=
  ∃ ending, text = opening ++ keyspace ++ ending ∧ copy = opening ++ other ++ ending

/-- Two plans with the same statements up to their keyspaces. -/
structure Plan.Transcribes (copy plan : Plan) : Prop where
  /-- Statements for types go together, in order. -/
  types : List.Forall₂ (Transcribed "CREATE TYPE IF NOT EXISTS " plan.keyspace copy.keyspace)
    plan.types copy.types
  /-- Statements for tables go together, in order. -/
  tables : List.Forall₂ (Transcribed "CREATE TABLE IF NOT EXISTS " plan.keyspace copy.keyspace)
    plan.tables copy.tables

/-- What is written in two keyspaces is written alike. -/
theorem Plan.transcribes_written (keyspace other : String) (tables : List Table)
    (required : List UserType) :
    (Plan.written other tables required).Transcribes (Plan.written keyspace tables required) := by
  constructor
  · show List.Forall₂ _ (required.map _) (required.map _)
    rw [List.forall₂_map_left_iff, List.forall₂_map_right_iff, List.forall₂_same]
    intro type _
    exact ⟨(Statement.createType keyspace type).ending, Statement.text_eq_ending _,
      Statement.text_eq_ending _⟩
  · show List.Forall₂ _ (tables.map _) (tables.map _)
    rw [List.forall₂_map_left_iff, List.forall₂_map_right_iff, List.forall₂_same]
    intro table _
    exact ⟨(Statement.createTable keyspace table).ending, Statement.text_eq_ending _,
      Statement.text_eq_ending _⟩

variable {keyspace other : String} {types : TypeRegistry} {tables : List Table}

/-- Plans in two valid keyspaces fail with the same errors. -/
theorem Plan.ofTables_eq_error_iff (valid : isIdentifier keyspace = true)
    (otherValid : isIdentifier other = true) {error : SchemaError} :
    Plan.ofTables keyspace types tables = .error error ↔
      Plan.ofTables other types tables = .error error := by
  rw [ofTables_eq valid, ofTables_eq otherValid, map_eq_error, map_eq_error]

/-- A plan in one valid keyspace has a transcript in every other one. -/
theorem Plan.exists_transcript (valid : isIdentifier keyspace = true)
    (otherValid : isIdentifier other = true) {plan : Plan}
    (planned : Plan.ofTables keyspace types tables = .ok plan) :
    ∃ copy, Plan.ofTables other types tables = .ok copy ∧ plan.keyspace = keyspace ∧
      copy.keyspace = other ∧ copy.Transcribes plan := by
  rw [ofTables_eq valid] at planned
  obtain ⟨required, found, rfl⟩ := map_eq_ok.1 planned
  refine ⟨Plan.written other tables required, ?_, rfl, rfl, transcribes_written _ _ _ _⟩
  rw [ofTables_eq otherValid]
  exact map_eq_ok.2 ⟨required, found, rfl⟩

end CqlSchema
