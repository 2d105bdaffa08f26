import CqlSchema.Plan
/-!
# Applying a plan

Statements are executed one after the other, and the first failure ends the run: a later
statement may need an earlier one. The executor is any operation of a monad, so its answers may
depend on all that it executed before. `record` is the executor that only notes down.
-/

namespace CqlSchema

/-- Failures of applying a schema, with the executor's own failures as `ε`. -/
inductive ApplyError (ε : Type) where
  | schema (error : SchemaError)
  | execution (index : Nat) (statement : String) (source : ε)
  deriving Repr

/-- Wording of a failure, given the wordings of unreadable documents and of the executor's
failures. -/
def ApplyError.message {ε : Type} (explain : String → String) (describe : ε → String) :
    ApplyError ε → String
  | .schema error => error.message explain
  | .execution index statement source =>
    s!"statement #{index} failed: {statement}: {describe source}"

variable {m : Type → Type} [Monad m] {ε : Type}

/-- Executes statements in order until one fails; `index` counts those already executed.
Returns how many were executed in all. -/
def executeAll (execute : String → m (Except ε Unit)) (index : Nat) :
    List String → m (Except (ApplyError ε) Nat)
  | [] => pure (.ok index)
  | statement :: rest => do
    match ← execute statement with
    | .ok () => executeAll execute (index + 1) rest
    | .error source => pure (.error (.execution index statement source))

/-- Applies a plan: the types first, then the tables. -/
def Plan.apply (execute : String → m (Except ε Unit)) (plan : Plan) :
    m (Except (ApplyError ε) Nat) :=
  executeAll execute 0 plan.statements

/-- Synthesises a catalog and applies the plan. Nothing is executed when synthesis fails. -/
def Catalog.applyAll (execute : String → m (Except ε Unit)) (keyspace : String)
    (catalog : Catalog) : m (Except (ApplyError ε) Nat) :=
  match catalog.plan keyspace with
  | .error error => pure (.error (.schema error))
  | .ok plan => plan.apply execute

/-- Executor that notes each statement at the end of a list and never fails. -/
def record (statement : String) : StateM (List String) (Except ε Unit) := do
  modify (· ++ [statement])
  return .ok ()

end CqlSchema
