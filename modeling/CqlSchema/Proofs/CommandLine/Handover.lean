import CqlSchema.Proofs.CommandLine.Trace
import CqlSchema.Proofs.Plan.Retry
/-!
# Handing statements over

A real run hands statements to a program, one call a statement. The calls in its trace tell which
statements were handed over, and whether they succeeded tells how the run ends: with the first call
that fails, or after the last statement.
-/

namespace CqlSchema

variable {σ : Type}

/-! ## What a trace holds -/

/-- Programs that are started in a trace, in order. -/
def callsIn (trace : List Event) : List ProgramCall :=
  trace.filterMap fun
    | .started call => some call
    | .printed _ => none

/-- Text that is printed in a trace. -/
def printedIn (trace : List Event) : String :=
  String.join (trace.filterMap fun
    | .printed text => some text
    | .started _ => none)

/-- Lines that are printed in a trace, with an empty one behind the last line break. -/
def linesIn (trace : List Event) : List (List Char) :=
  (printedIn trace).toList.splitOn '\n'

/-- Program of a call, with its arguments. -/
def ProgramCall.command (call : ProgramCall) : String × List String :=
  (call.program, call.arguments)

/-- A call succeeds when the program could be started and has ended without an error. -/
def ProgramCall.Succeeds (call : ProgramCall) : Prop :=
  ∃ execution, call.answer = .ok execution ∧ execution.ending = .status 0

/-- Program of a target, with the arguments that hand a statement to it. -/
def Settings.Target.command (target : Target) (statement : String) : String × List String :=
  (target.program, [target.host, target.port.repr, "-e", statement])

/-- What is printed as one text is printed as its lines. -/
theorem linesIn_printed (text : String) : linesIn [.printed text] = text.toList.splitOn '\n' := by
  simp [linesIn, printedIn]

/-- Calls that are made behind a trace without calls are all of its calls. -/
theorem callsIn_append_started {trace : List Event} (still : callsIn trace = [])
    (calls : List ProgramCall) : callsIn (trace ++ calls.map .started) = calls := by
  have made : callsIn (calls.map .started) = calls := by
    rw [callsIn, List.filterMap_map]
    exact List.filterMap_some
  rw [callsIn, List.filterMap_append]
  exact (congrArg (· ++ _) still).trans made

namespace CommandLine

open Settings (Target)

/-! ## Statements that are handed over -/

/-- Statements are handed to the program of a target one after the other, up to the first call that
fails; `index` counts those that were handed over before. -/
inductive HandsOver (target : Target) :
    Nat → List String → List ProgramCall → Except (ApplyError QueryFault) Nat → Prop
  | done (index : Nat) : HandsOver target index [] [] (.ok index)
  | succeeded {index : Nat} {statement : String} {rest : List String} {call : ProgramCall}
      {calls : List ProgramCall} {outcome : Except (ApplyError QueryFault) Nat}
      (handed : call.command = target.command statement) (succeeds : call.Succeeds)
      (later : HandsOver target (index + 1) rest calls outcome) :
      HandsOver target index (statement :: rest) (call :: calls) outcome
  | failed {index : Nat} {statement : String} {rest : List String} {call : ProgramCall}
      {fault : QueryFault} (handed : call.command = target.command statement)
      (fails : ¬ call.Succeeds) :
      HandsOver target index (statement :: rest) [call]
        (.error (.execution index statement fault))

/-- A statement is handed over by one call, whose answer decides the outcome. -/
theorem query_traced (host : Host (StateM σ)) (target : Target) (statement : String) (state : σ)
    (trace : List Event) :
    ∃ outcome after call,
      (query host.traced target statement).run (state, trace) =
        (outcome, (after, trace ++ [.started call])) ∧
      call.command = target.command statement ∧ (outcome = .ok () ↔ call.Succeeds) := by
  let arguments := [target.host, target.port.repr, "-e", statement]
  rcases answered : (host.start target.program arguments).run state with ⟨answer, after⟩
  have noted : (host.traced.start target.program arguments).run (state, trace) =
      (answer, (after, trace ++ [.started ⟨target.program, arguments, answer⟩])) := by
    have ran := run_noting (fun answer => .started ⟨target.program, arguments, answer⟩)
      (host.start target.program arguments) state trace
    rwa [answered] at ran
  have handed : ProgramCall.command ⟨target.program, arguments, answer⟩ =
    target.command statement := rfl
  cases answer with
  | error fault =>
    refine ⟨.error (.notStarted target.program fault), after, _, ?_, handed, ?_⟩
    · rw [query, StateT.run_bind, noted]
      rfl
    · simp [ProgramCall.Succeeds]
  | ok execution =>
    let errors := String.ofList (Text.trim (Text.decodeLossy execution.errors.toList))
    have ran : (query host.traced target statement).run (state, trace) =
        (if execution.ending = .status 0 then pure (.ok ())
          else pure (.error (.failed execution.ending errors)) :
            StateM (σ × List Event) (Except QueryFault Unit)).run
          (after, trace ++ [.started ⟨target.program, arguments, .ok execution⟩]) := by
      rw [query, StateT.run_bind, noted]
      rfl
    by_cases clean : execution.ending = .status 0
    · rw [if_pos clean] at ran
      exact ⟨.ok (), after, _, ran, handed, by simp [ProgramCall.Succeeds, clean]⟩
    · rw [if_neg clean] at ran
      exact ⟨_, after, _, ran, handed, by simp [ProgramCall.Succeeds, clean]⟩

/-- Executing statements on a traced host hands them over. -/
theorem handsOver_executeAll (host : Host (StateM σ)) (target : Target) (statements : List String)
    (index : Nat) (state : σ) (trace : List Event) :
    ∃ outcome after calls,
      (executeAll (query host.traced target) index statements).run (state, trace) =
        (outcome, (after, trace ++ calls.map .started)) ∧
      HandsOver target index statements calls outcome := by
  induction statements generalizing index state trace with
  | nil => exact ⟨_, state, [], by rw [List.map_nil, List.append_nil]; rfl, .done index⟩
  | cons statement rest ih =>
    obtain ⟨answer, middle, call, ran, handed, decides⟩ :=
      query_traced host target statement state trace
    cases answer with
    | error fault =>
      have fails : ¬ call.Succeeds := fun succeeds => by cases decides.2 succeeds
      exact ⟨_, middle, [call], executeAll_of_error ran index rest, .failed handed fails⟩
    | ok nothing =>
      obtain ⟨outcome, after, calls, remaining, later⟩ := ih (index + 1) middle
        (trace ++ [.started call])
      refine ⟨outcome, after, call :: calls, ?_, .succeeded handed (decides.1 rfl) later⟩
      rw [executeAll_of_ok ran, remaining, List.append_assoc]
      rfl

namespace HandsOver

variable {target : Target} {index : Nat} {statements : List String} {calls : List ProgramCall}
  {outcome : Except (ApplyError QueryFault) Nat}

/-- When every call succeeds, all statements are handed over. -/
theorem whole (hands : HandsOver target index statements calls outcome)
    (succeed : ∀ call ∈ calls, call.Succeeds) :
    calls.map ProgramCall.command = statements.map target.command ∧
      outcome = .ok (index + statements.length) := by
  induction hands with
  | done index => exact ⟨rfl, rfl⟩
  | succeeded handed _ later ih =>
    obtain ⟨-, others⟩ := List.forall_mem_cons.1 succeed
    obtain ⟨commands, rfl⟩ := ih others
    refine ⟨by rw [List.map_cons, List.map_cons, handed, commands], ?_⟩
    rw [List.length_cons, Nat.add_right_comm, Nat.add_assoc]
  | failed handed fails => exact absurd (succeed _ List.mem_cons_self) fails

/-- The first call that fails is the last one, and its statement is the one that is reported. -/
theorem stopped (hands : HandsOver target index statements calls outcome)
    {before later : List ProgramCall} {call : ProgramCall} (split : calls = before ++ call :: later)
    (succeed : ∀ earlier ∈ before, earlier.Succeeds) (fails : ¬ call.Succeeds) :
    calls.map ProgramCall.command =
        (statements.take (before.length + 1)).map target.command ∧
      ∃ statement fault, statements[before.length]? = some statement ∧
        outcome = .error (.execution (index + before.length) statement fault) := by
  induction hands generalizing before with
  | done index => cases before <;> cases split
  | succeeded handed succeeds rest ih =>
    cases before with
    | nil =>
      obtain ⟨rfl, rfl⟩ := List.cons.inj split
      exact absurd succeeds fails
    | cons first before =>
      obtain ⟨rfl, rfl⟩ := List.cons.inj split
      obtain ⟨-, others⟩ := List.forall_mem_cons.1 succeed
      obtain ⟨commands, statement, fault, place, rfl⟩ := ih rfl others
      refine ⟨?_, statement, fault, place, ?_⟩
      · rw [List.map_cons, handed, commands]
        rfl
      · rw [List.length_cons, Nat.add_right_comm, Nat.add_assoc]
  | failed handed _ =>
    cases before with
    | nil =>
      obtain ⟨rfl, rfl⟩ := List.cons.inj split
      exact ⟨by rw [List.map_singleton, handed]; rfl, _, _, rfl, rfl⟩
    | cons first before =>
      obtain ⟨-, none⟩ := List.cons.inj split
      cases before <;> cases none

end HandsOver

end CommandLine

end CqlSchema
