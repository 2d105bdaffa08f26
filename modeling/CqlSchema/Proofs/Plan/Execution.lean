import CqlSchema.Plan.Apply
/-!
# Executing statements in order

Statements are executed in order up to the first failure. An executor is a state machine: what it
answers to a call depends on its state, and so on all the calls before. What it was called on is
told by an executor beside it that notes every call and otherwise goes as it does. After any number
of successful calls the noted calls are the statements in front, and the state is that after them;
so a run ends with all statements, or with the first that fails.
-/

namespace CqlSchema

variable {σ ε : Type}

/-! ## Single executions -/

/-- After a statement that is executed the others follow. -/
theorem executeAll_of_ok {execute : String → StateM σ (Except ε Unit)} {text : String}
    {state after : σ} (executed : (execute text).run state = (.ok (), after)) (index : Nat)
    (rest : List String) :
    (executeAll execute index (text :: rest)).run state =
      (executeAll execute (index + 1) rest).run after := by
  rw [executeAll, StateT.run_bind, executed]
  rfl

/-- A statement that fails ends the run. -/
theorem executeAll_of_error {execute : String → StateM σ (Except ε Unit)} {text : String}
    {state after : σ} {source : ε}
    (failed : (execute text).run state = (.error source, after)) (index : Nat)
    (rest : List String) :
    (executeAll execute index (text :: rest)).run state =
      (.error (.execution index text source), after) := by
  rw [executeAll, StateT.run_bind, failed]
  rfl

/-! ## Calls -/

/-- State of an executor after calls, whatever it answered. -/
def stateAfter (execute : String → StateM σ (Except ε Unit)) (state : σ) (calls : List String) :
    σ :=
  calls.foldl (fun state statement => ((execute statement).run state).2) state

/-- Answer of an executor to the call at a position, after the calls in front of it. -/
def answerAt (execute : String → StateM σ (Except ε Unit)) (state : σ) (calls : List String)
    (position : Nat) : Option (Except ε Unit) :=
  (calls[position]?).map fun statement =>
    ((execute statement).run (stateAfter execute state (calls.take position))).1

/-- Executor that goes as another one and notes what it is called on. -/
def noted (execute : String → StateM σ (Except ε Unit)) (statement : String) :
    StateM (σ × List String) (Except ε Unit) := fun (state, calls) =>
  let (answer, after) := (execute statement).run state
  (answer, (after, calls ++ [statement]))

variable {execute : String → StateM σ (Except ε Unit)} {state : σ} {statements : List String}

/-- One more call leads to the state after it. -/
theorem stateAfter_concat (executed : List String) (next : String) :
    stateAfter execute state (executed ++ [next]) =
      ((execute next).run (stateAfter execute state executed)).2 := by
  simp [stateAfter]

/-- The answer to a statement depends on the state after those in front of it. -/
theorem answerAt_length (execute : String → StateM σ (Except ε Unit)) (state : σ)
    {executed later : List String} {next : String}
    (shape : statements = executed ++ next :: later) :
    answerAt execute state statements executed.length =
      some ((execute next).run (stateAfter execute state executed)).1 := by
  simp [answerAt, shape]

/-- A noted call goes as the call itself. -/
theorem run_noted (execute : String → StateM σ (Except ε Unit)) (statement : String) (state : σ)
    (calls : List String) :
    (noted execute statement).run (state, calls) =
      (((execute statement).run state).1,
        (((execute statement).run state).2, calls ++ [statement])) :=
  rfl

/-- Noting the calls changes neither how a run ends nor the state in which it does. -/
theorem executeAll_noted (index : Nat) (state : σ) (calls : List String) :
    (executeAll execute index statements).run state =
      (((executeAll (noted execute) index statements).run (state, calls)).1,
        ((executeAll (noted execute) index statements).run (state, calls)).2.1) := by
  induction statements generalizing index state calls with
  | nil => rfl
  | cons statement rest ih =>
    have call := run_noted execute statement state calls
    rcases answered : (execute statement).run state with ⟨answer, after⟩
    rw [answered] at call
    cases answer with
    | error source => rw [executeAll_of_error answered, executeAll_of_error call]
    | ok done =>
      rw [executeAll_of_ok answered, executeAll_of_ok call]
      exact ih (index + 1) after (calls ++ [statement])

/-! ## Runs -/

/-- How a run over statements ends, with the statements that were called: all of them, if every call
succeeds, and otherwise those up to the first that fails. -/
inductive RunsTo (execute : String → StateM σ (Except ε Unit)) (state : σ)
    (statements : List String) : Except (ApplyError ε) Nat → List String → Prop where
  | whole :
      (∀ position < statements.length,
        answerAt execute state statements position = some (.ok ())) →
      RunsTo execute state statements (.ok statements.length) statements
  | stopped {position : Nat} {statement : String} {source : ε} :
      statements[position]? = some statement →
      (∀ earlier < position, answerAt execute state statements earlier = some (.ok ())) →
      answerAt execute state statements position = some (.error source) →
      RunsTo execute state statements (.error (.execution position statement source))
        (statements.take (position + 1))

/-- After the successful statements in front, the others are executed as they should be. -/
theorem runsTo_executeAll (execute : String → StateM σ (Except ε Unit)) (state : σ)
    {executed rest : List String} (shape : statements = executed ++ rest)
    (succeeded : ∀ earlier < executed.length,
      answerAt execute state statements earlier = some (.ok ())) :
    ∃ outcome calls,
      (executeAll (noted execute) executed.length rest).run
          (stateAfter execute state executed, executed) =
        (outcome, (stateAfter execute state calls, calls)) ∧
      RunsTo execute state statements outcome calls := by
  -- The noted calls are always the executed statements, and the state is that after them.
  induction rest generalizing executed with
  | nil =>
    rw [List.append_nil] at shape
    subst shape
    exact ⟨_, _, rfl, .whole succeeded⟩
  | cons next later ih =>
    have answer := answerAt_length execute state shape
    have call := run_noted execute next (stateAfter execute state executed) executed
    rw [← stateAfter_concat] at call
    cases answered : ((execute next).run (stateAfter execute state executed)).1 with
    | error source =>
      rw [answered] at answer call
      have place : statements[executed.length]? = some next := by simp [shape]
      have taken : statements.take (executed.length + 1) = executed ++ [next] := by
        rw [shape, List.append_cons]
        exact List.take_left' (by simp)
      exact ⟨_, _, executeAll_of_error call _ _, taken ▸ .stopped place succeeded answer⟩
    | ok done =>
      rw [answered] at answer call
      have longer : ∀ earlier < (executed ++ [next]).length,
          answerAt execute state statements earlier = some (.ok ()) := by
        intro earlier bound
        rw [List.length_append, List.length_singleton] at bound
        rcases Nat.lt_succ_iff_lt_or_eq.1 bound with before | rfl
        · exact succeeded earlier before
        · exact answer
      rw [List.append_cons] at shape
      obtain ⟨outcome, calls, ran, ends⟩ := ih shape longer
      refine ⟨outcome, calls, ?_, ends⟩
      rw [executeAll_of_ok call]
      rw [List.length_append, List.length_singleton] at ran
      exact ran

/-- A run in which every call succeeds ends with all statements. -/
theorem RunsTo.eq_whole {outcome : Except (ApplyError ε) Nat} {calls : List String}
    (ends : RunsTo execute state statements outcome calls)
    (succeed : ∀ position < statements.length,
      answerAt execute state statements position = some (.ok ())) :
    outcome = .ok statements.length ∧ calls = statements := by
  cases ends with
  | whole => exact ⟨rfl, rfl⟩
  | stopped place _ fails =>
    rw [succeed _ (List.getElem?_eq_some_iff.1 place).1] at fails
    cases fails

/-- A run in which a call is the first to fail ends with it. -/
theorem RunsTo.eq_stopped {outcome : Except (ApplyError ε) Nat} {calls : List String}
    (ends : RunsTo execute state statements outcome calls) {position : Nat} {statement : String}
    {source : ε} (place : statements[position]? = some statement)
    (succeed : ∀ earlier < position, answerAt execute state statements earlier = some (.ok ()))
    (fails : answerAt execute state statements position = some (.error source)) :
    outcome = .error (.execution position statement source) ∧
      calls = statements.take (position + 1) := by
  cases ends with
  | whole succeeded =>
    rw [succeeded _ (List.getElem?_eq_some_iff.1 place).1] at fails
    cases fails
  | @stopped other otherStatement otherSource otherPlace otherSucceed otherFails =>
    -- Neither of two first failures comes before the other.
    obtain rfl : position = other := by
      rcases Nat.lt_trichotomy position other with less | same | more
      · rw [otherSucceed _ less] at fails
        cases fails
      · exact same
      · rw [succeed _ more] at otherFails
        cases otherFails
    rw [place] at otherPlace
    rw [fails] at otherFails
    cases otherPlace
    cases otherFails
    exact ⟨rfl, rfl⟩

/-! ## Plans -/

/-- How applying a plan ends, with the state of the executor afterwards and what it was called
on. -/
def Plan.applied (execute : String → StateM σ (Except ε Unit)) (state : σ) (plan : Plan) :
    Except (ApplyError ε) Nat × σ × List String :=
  (plan.apply (noted execute)).run (state, [])

/-- How synthesising and applying a catalog ends, with the state of the executor afterwards and what
it was called on. -/
def Catalog.applied (execute : String → StateM σ (Except ε Unit)) (state : σ) (keyspace : String)
    (catalog : Catalog) : Except (ApplyError ε) Nat × σ × List String :=
  (catalog.applyAll (noted execute) keyspace).run (state, [])

/-- A plan is applied in order: the types first, and nothing behind the first failure. -/
structure Plan.AppliedInOrder (plan : Plan) (execute : String → StateM σ (Except ε Unit))
    (state : σ) : Prop where
  /-- Without the notes a run ends in the same way and in the same state. -/
  unnoted : (plan.apply execute).run state =
    ((plan.applied execute state).1, (plan.applied execute state).2.1)
  /-- The executor is called on statements in front, the types before the tables. -/
  called : (plan.applied execute state).2.2 <+: plan.types ++ plan.tables
  /-- If every call succeeds, all statements are executed and counted. -/
  whole : (∀ position < plan.size,
      answerAt execute state (plan.types ++ plan.tables) position = some (.ok ())) →
    plan.applied execute state =
      (.ok plan.size, stateAfter execute state (plan.types ++ plan.tables),
        plan.types ++ plan.tables)
  /-- The first call that fails is the last one, and it is reported. -/
  stopped : ∀ position statement source,
    (plan.types ++ plan.tables)[position]? = some statement →
    (∀ earlier < position,
      answerAt execute state (plan.types ++ plan.tables) earlier = some (.ok ())) →
    answerAt execute state (plan.types ++ plan.tables) position = some (.error source) →
      ∃ calls, calls = (plan.types ++ plan.tables).take (position + 1) ∧
        calls.length = position + 1 ∧
        plan.applied execute state =
          (.error (.execution position statement source), stateAfter execute state calls, calls)

/-- Every plan is applied in order. -/
theorem Plan.appliedInOrder (execute : String → StateM σ (Except ε Unit)) (state : σ)
    (plan : Plan) : plan.AppliedInOrder execute state := by
  obtain ⟨outcome, calls, ran, ends⟩ := runsTo_executeAll execute state
    (List.nil_append plan.statements).symm (fun _ none => absurd none (Nat.not_lt_zero _))
  have applied : plan.applied execute state = (outcome, stateAfter execute state calls, calls) :=
    ran
  refine ⟨executeAll_noted 0 state [], ?_, ?_, ?_⟩
  · rw [applied]
    cases ends with
    | whole => exact List.prefix_rfl
    | stopped => exact List.take_prefix _ _
  · intro succeed
    rw [← plan.length_statements] at succeed
    obtain ⟨rfl, rfl⟩ := ends.eq_whole succeed
    rw [applied, plan.length_statements]
    rfl
  · intro position statement source place succeed fails
    obtain ⟨rfl, rfl⟩ := ends.eq_stopped place succeed fails
    refine ⟨_, rfl, ?_, applied⟩
    rw [List.length_take]
    exact Nat.min_eq_left (List.getElem?_eq_some_iff.1 place).1

/-- The recorder holds what it held before, and then the calls. -/
theorem stateAfter_record (log calls : List String) :
    stateAfter (record : String → StateM (List String) (Except ε Unit)) log calls =
      log ++ calls := by
  induction calls generalizing log with
  | nil => exact (List.append_nil log).symm
  | cons statement rest ih =>
    exact (ih (log ++ [statement])).trans (by rw [List.append_assoc, List.singleton_append])

/-- The recorder never fails, so a whole plan is recorded. -/
theorem Plan.apply_record (plan : Plan) (log : List String) :
    (plan.apply (record : String → StateM (List String) (Except ε Unit))).run log =
      (.ok plan.size, log ++ (plan.types ++ plan.tables)) := by
  have inOrder := plan.appliedInOrder
    (record : String → StateM (List String) (Except ε Unit)) log
  rw [inOrder.unnoted, inOrder.whole, stateAfter_record]
  intro position bound
  have inside : position < (plan.types ++ plan.tables).length := by
    rw [List.length_append]
    exact bound
  rw [answerAt, List.getElem?_eq_getElem inside]
  rfl

/-- Every plan is applied in order by any executor, and the recorder gains exactly its statements. A
catalog is applied as its plan is; without a plan nothing is called and the executor stays as it
was. -/
theorem applied_in_order (execute : String → StateM σ (Except ε Unit)) (state : σ) :
    (∀ plan : Plan, plan.AppliedInOrder execute state ∧
      ∀ log, (plan.apply (record : String → StateM (List String) (Except ε Unit))).run log =
        (.ok plan.size, log ++ (plan.types ++ plan.tables))) ∧
    (∀ (catalog : Catalog) (keyspace : String) (plan : Plan), catalog.plan keyspace = .ok plan →
      (catalog.applyAll execute keyspace).run state = (plan.apply execute).run state ∧
      catalog.applied execute state keyspace = plan.applied execute state ∧
      ∀ log, (catalog.applyAll (record : String → StateM (List String) (Except ε Unit))
        keyspace).run log = (.ok plan.size, log ++ (plan.types ++ plan.tables))) ∧
    (∀ (catalog : Catalog) (keyspace : String) (error : SchemaError),
      catalog.plan keyspace = .error error →
      (catalog.applyAll execute keyspace).run state = (.error (.schema error), state) ∧
      catalog.applied execute state keyspace = (.error (.schema error), state, [])) := by
  refine ⟨fun plan => ⟨plan.appliedInOrder execute state, plan.apply_record⟩, ?_, ?_⟩
  · intro catalog keyspace plan planned
    have recorded : ∀ log, (plan.apply (record : String → StateM (List String) (Except ε Unit))).run
        log = (.ok plan.size, log ++ (plan.types ++ plan.tables)) := plan.apply_record
    rw [Catalog.applied, Catalog.applyAll, Catalog.applyAll, Catalog.applyAll, planned]
    exact ⟨rfl, rfl, recorded⟩
  · intro catalog keyspace error failed
    rw [Catalog.applied, Catalog.applyAll, Catalog.applyAll, failed]
    exact ⟨rfl, rfl⟩

/-- A plan of a type and two tables, before an executor whose second call fails, and before the
recorder. -/
theorem applied_until_second_call :
    let execute : String → StateM (List String) (Except String Unit) := fun statement executed =>
      if executed.length = 1 then (.error "reset", executed)
      else (.ok (), executed ++ [statement])
    let plan : Plan := ⟨"ks", ["type"], ["table", "other"]⟩
    plan.applied execute [] = (.error (.execution 1 "table" "reset"), ["type"], ["type", "table"]) ∧
      (plan.apply (record : String → StateM (List String) (Except String Unit))).run ["old"] =
        (.ok 3, ["old", "type", "table", "other"]) := by
  intro execute plan
  obtain ⟨inOrder, recorded⟩ := (applied_in_order execute []).1 plan
  refine ⟨?_, recorded ["old"]⟩
  obtain ⟨calls, rfl, -, stopped⟩ := inOrder.stopped 1 "table" "reset" rfl
    (fun earlier less => by obtain rfl := Nat.lt_one_iff.1 less; rfl) rfl
  exact stopped

end CqlSchema
