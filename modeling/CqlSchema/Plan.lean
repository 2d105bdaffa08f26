import CqlSchema.Catalog
import CqlSchema.TypeRegistry.Closure
/-!
# Plans

A plan holds the texts of the statements that build a schema in a keyspace: the types that the
tables need, in declaration order, then the tables, in declaration order.
-/

namespace CqlSchema

/-- Statement texts for one keyspace. -/
structure Plan where
  keyspace : String
  types : List String
  tables : List String
  deriving Repr, DecidableEq

namespace Plan

/-- All statements in the order in which they have to be executed. -/
def statements (plan : Plan) : List String :=
  plan.types ++ plan.tables

/-- All statements of a plan that is used up: the tables are put behind the types. -/
def intoStatements (plan : Plan) : Array String :=
  plan.tables.foldl Array.push plan.types.toArray

/-- Number of statements. -/
def size (plan : Plan) : Nat :=
  plan.types.length + plan.tables.length

/-- Recognises a plan without statements. -/
def isEmpty (plan : Plan) : Bool :=
  plan.types.isEmpty && plan.tables.isEmpty

/-- A plan that is used up gives the statements that it had. -/
theorem toList_intoStatements (plan : Plan) : plan.intoStatements.toList = plan.statements := by
  simp [intoStatements, statements]

theorem length_statements (plan : Plan) : plan.statements.length = plan.size := by
  simp [statements, size]

theorem isEmpty_iff {plan : Plan} : plan.isEmpty = true ↔ plan.statements = [] := by
  simp [isEmpty, statements]

end Plan

/-- Plan for the given tables and for the types that they need. The keyspace is checked first,
then the tables in order, and the handles of their columns last. -/
def Plan.ofTables (keyspace : String) (types : TypeRegistry) (tables : List Table) :
    Except SchemaError Plan := do
  if !isIdentifier keyspace then
    throw (.invalidName keyspace .keyspace)
  let created ← tables.mapM (Table.create keyspace)
  let creations ← types.creations keyspace (created.flatMap Prod.snd)
  return ⟨keyspace, creations, created.map fun entry => entry.1.text⟩

/-- Plan for a whole catalog. -/
def Catalog.plan (catalog : Catalog) (keyspace : String) : Except SchemaError Plan :=
  Plan.ofTables keyspace catalog.types catalog.tables.tables

end CqlSchema
