import CqlSchema.Host.Scratch
import CqlSchema.Proofs.CommandLine.Planning
import CqlSchema.Proofs.Plan.Keyspace
import CqlSchema.Proofs.Plan.Refusal
import CqlSchema.Proofs.TypeRegistry.Growth
/-!
# What a check tells of plans

A check that is given no keyspace plans in a keyspace of its own. Every valid keyspace has the same
plans up to the keyspace itself, so the check ends as planning in that keyspace does, with the same
failure, and the statements that it counts are as many as those of the plan.
-/

namespace CqlSchema.CommandLine

open CqlSchema.Outcome

/-- The keyspace of a check is valid. -/
theorem isIdentifier_checkKeyspace : isIdentifier checkKeyspace = true := by
  decide

section Check

variable {σ : Type} {host : Host (StateM σ)} {paths : List String} {format : Format}
  {state after : σ} {failure : Failure}

/-! ## Ends of a check -/

/-- Lines that a check prints in a format. -/
def checkReport (catalog : Catalog) (plan : Plan) : Format → List String
  | .text => checkLines catalog plan
  | .json => [catalog.toJson.pretty]

/-- After its files are declared, a check plans their catalog and prints its report. -/
theorem runFrom_check :
    runFrom (check host ⟨none, paths⟩ format) state =
      runFrom (catalogOf host.toFiles ⟨none, paths⟩ >>= fun catalog =>
        planOf catalog checkKeyspace >>= fun plan =>
          printLines host (checkReport catalog plan format)) state := by
  cases format with
  | text => rfl
  | json => rfl

/-- A check succeeds when its files are declared and their catalog has a plan. Only its report
touches the host after that. -/
theorem check_eq_ok :
    runFrom (check host ⟨none, paths⟩ format) state = (.ok (), after) ↔
      ∃ catalog plan middle,
        runFrom (catalogOf host.toFiles ⟨none, paths⟩) state = (.ok catalog, middle) ∧
        catalog.plan checkKeyspace = .ok plan ∧
        runFrom (printLines host (checkReport catalog plan format)) middle = (.ok (), after) := by
  simp only [runFrom_check, runFrom_bind_eq_ok, runFrom_planOf, Prod.mk.injEq, mapError_eq_ok]
  constructor
  · rintro ⟨catalog, middle, declared, plan, _, ⟨planned, rfl⟩, printed⟩
    exact ⟨catalog, plan, middle, declared, planned, printed⟩
  · rintro ⟨catalog, plan, middle, declared, planned, printed⟩
    exact ⟨catalog, middle, declared, plan, middle, ⟨planned, rfl⟩, printed⟩

/-- A check fails when its files are not declared, or when their catalog has no plan. -/
theorem check_eq_error :
    runFrom (check host ⟨none, paths⟩ format) state = (.error failure, after) ↔
      runFrom (catalogOf host.toFiles ⟨none, paths⟩) state = (.error failure, after) ∨
        ∃ catalog error,
          runFrom (catalogOf host.toFiles ⟨none, paths⟩) state = (.ok catalog, after) ∧
          catalog.plan checkKeyspace = .error error ∧ failure = .planning error := by
  simp only [runFrom_check, runFrom_bind_eq_error, runFrom_planOf, runFrom_printLines,
    Prod.mk.injEq, mapError_eq_error, mapError_eq_ok]
  constructor
  · rintro (undeclared | ⟨catalog, middle, declared, ⟨⟨error, refused, rfl⟩, rfl⟩ | printing⟩)
    · exact .inl undeclared
    · exact .inr ⟨catalog, error, declared, refused, rfl⟩
    · obtain ⟨-, -, -, impossible, -⟩ := printing
      cases impossible
  · rintro (undeclared | ⟨catalog, error, declared, refused, rfl⟩)
    · exact .inl undeclared
    · exact .inr ⟨catalog, after, declared, .inl ⟨⟨error, refused, rfl⟩, rfl⟩⟩

/-! ## Checks and plans -/

variable {keyspace : String}

/-- Without a keyspace a check fails exactly as planning in any valid keyspace does. -/
theorem check_eq_error_iff (valid : isIdentifier keyspace = true) :
    runFrom (check host ⟨none, paths⟩ format) state = (.error failure, after) ↔
      runFrom (planIn host.toFiles ⟨some keyspace, paths⟩) state = (.error failure, after) := by
  rw [check_eq_error, planIn_eq_error]
  refine or_congr Iff.rfl (exists_congr fun catalog => exists_congr fun error => ?_)
  refine and_congr Iff.rfl (and_congr ?_ Iff.rfl)
  exact Plan.ofTables_eq_error_iff isIdentifier_checkKeyspace valid

/-- Where there is a plan in a valid keyspace, a check without a keyspace reports the catalog that
was planned and counts the statements of that plan. -/
theorem check_of_planIn (format : Format) (valid : isIdentifier keyspace = true) {plan : Plan}
    (planned : runFrom (planIn host.toFiles ⟨some keyspace, paths⟩) state = (.ok plan, after)) :
    ∃ catalog copy, runFrom (check host ⟨none, paths⟩ format) state =
        runFrom (printLines host (checkReport catalog copy format)) after ∧
      copy.types.length = plan.types.length ∧ copy.tables.length = plan.tables.length := by
  obtain ⟨catalog, declared, found⟩ := planIn_eq_ok.1 planned
  obtain ⟨copy, copied, -, -, transcript⟩ :=
    Plan.exists_transcript valid isIdentifier_checkKeyspace found
  refine ⟨catalog, copy, ?_, transcript.types.length_eq.symm, transcript.tables.length_eq.symm⟩
  exact check_eq_ok.2 ⟨catalog, copy, after, declared, copied, rfl⟩

end Check

/-- What a check without a keyspace tells of planning the same files in a keyspace. -/
structure Predicts {σ : Type} (host : Host (StateM σ)) (paths : List String) (state : σ)
    (keyspace : String) : Prop where
  /-- The check succeeds exactly when there is a plan. -/
  succeeds : ∀ format,
    (∃ after, runFrom (check host ⟨none, paths⟩ format) state = (.ok (), after)) ↔
      ∃ plan after, runFrom (planIn host.toFiles ⟨some keyspace, paths⟩) state = (.ok plan, after)
  /-- The check fails exactly as planning does. -/
  fails : ∀ format failure after,
    runFrom (check host ⟨none, paths⟩ format) state = (.error failure, after) ↔
      runFrom (planIn host.toFiles ⟨some keyspace, paths⟩) state = (.error failure, after)
  /-- Where the check fails, so do the commands that plan, and they do nothing else. -/
  commands : ∀ format failure after,
    runFrom (check host ⟨none, paths⟩ format) state = (.error failure, after) →
      (∀ out format, runFrom (render host ⟨some keyspace, paths⟩ out format) state =
        (.error failure, after)) ∧
      ∀ connection isDry, runFrom (apply host connection ⟨some keyspace, paths⟩ isDry) state =
        (.error failure, after)
  /-- The statements that the check counts are those of the plan. -/
  counts : ∀ plan after,
    runFrom (planIn host.toFiles ⟨some keyspace, paths⟩) state = (.ok plan, after) →
      ∃ first, runFrom (check host ⟨none, paths⟩ .text) state = runFrom (printLines host [first,
        s!"  {plan.types.length} CREATE TYPE, {plan.tables.length} CREATE TABLE statements"]) after

/-- Plans of the same tables in two valid keyspaces fail alike, and where there is one, the other
is its transcript; so a check without a keyspace tells how planning the same files ends in every
valid keyspace, and how many statements there are. -/
theorem check_predicts {keyspace other : String} (valid : isIdentifier keyspace = true)
    (otherValid : isIdentifier other = true) (types : TypeRegistry) (tables : List Table) :
    (∀ error, Plan.ofTables keyspace types tables = .error error ↔
      Plan.ofTables other types tables = .error error) ∧
    (∀ plan, Plan.ofTables keyspace types tables = .ok plan →
      ∃ copy, Plan.ofTables other types tables = .ok copy ∧ plan.keyspace = keyspace ∧
        copy.keyspace = other ∧ copy.Transcribes plan) ∧
    ∀ {σ : Type} (host : Host (StateM σ)) (paths : List String) (state : σ),
      Predicts host paths state keyspace := by
  refine ⟨fun error => Plan.ofTables_eq_error_iff valid otherValid,
    fun plan planned => Plan.exists_transcript valid otherValid planned, ?_⟩
  intro σ host paths state
  refine ⟨?_, fun format failure after => check_eq_error_iff valid, ?_, ?_⟩
  · intro format
    rcases planned : runFrom (planIn host.toFiles ⟨some keyspace, paths⟩) state with
      ⟨outcome, after⟩
    cases outcome with
    | ok plan =>
      obtain ⟨catalog, copy, ran, -⟩ := check_of_planIn format valid planned
      rw [ran, runFrom_printLines]
      simp
    | error failure =>
      rw [(check_eq_error_iff valid).2 planned]
      simp
  · intro format failure after failed
    have unplanned := (check_eq_error_iff valid).1 failed
    exact ⟨fun _ _ => runFrom_bind_eq_error.2 (.inl unplanned),
      fun _ _ => runFrom_bind_eq_error.2 (.inl unplanned)⟩
  · intro plan after planned
    obtain ⟨catalog, copy, ran, typesCount, tablesCount⟩ := check_of_planIn .text valid planned
    rw [checkReport, checkLines, typesCount, tablesCount] at ran
    exact ⟨_, ran⟩

/-- A file declares a type and a table that requires it. They are planned in two keyspaces, and a
check of the file counts a statement for each. -/
theorem check_predicts_type_and_table :
    let text := "types: \x7bPoint: \x7bx: int\x7d\x7d\ntables: \x7bshapes: \x7bcolumns: " ++
      "\x7bid: \x7btype: uuid, key: partition\x7d, center: Point\x7d\x7d\x7d"
    let catalog := Catalog.empty.performAll [.declareType "Point" [("x", .scalar false .int)],
      .declareTable ⟨"shapes", none, [("id", .partition (.scalar false .uuid)),
        ("center", .regular (.user false ⟨0, "Point"⟩))]⟩]
    let host : Host (StateM Scratch) :=
      { Scratch.host [] [] with read := fun _ => return .ok text.toUTF8 }
    let start : Scratch := ⟨FileTree.empty, ""⟩
    let plan : Plan := ⟨"app", ["CREATE TYPE IF NOT EXISTS app.Point(x int);"],
      ["CREATE TABLE IF NOT EXISTS app.shapes(id uuid, center Point) PRIMARY KEY (id);"]⟩
    Plan.ofTables "app" catalog.types catalog.tables.tables = .ok plan ∧
    (∃ copy, Plan.ofTables "archive" catalog.types catalog.tables.tables = .ok copy ∧
      copy.keyspace = "archive" ∧ copy.Transcribes plan) ∧
    runFrom (planIn host.toFiles ⟨some "app", ["a.yaml"]⟩) start = (.ok plan, start) ∧
    (∃ first, runFrom (check host ⟨none, ["a.yaml"]⟩ .text) start = runFrom (printLines host
      [first, "  1 CREATE TYPE, 1 CREATE TABLE statements"]) start) ∧
    Predicts host ["a.yaml"] start "app" := by
  intro text catalog host start plan
  have valid : isIdentifier "app" = true := by decide
  have otherValid : isIdentifier "archive" = true := by decide
  obtain ⟨-, transcripts, predicts⟩ :=
    check_predicts valid otherValid catalog.types catalog.tables.tables
  let point : UserType := ⟨0, "Point", [("x", .scalar false .int)]⟩
  have reachable : catalog.Reachable := ⟨_, rfl⟩
  have used : catalog.tables.tables.flatMap Table.userTypes = [point.handle] := by decide
  have atPoint : catalog.types.resolve point.handle = some point := by decide
  have planned : catalog.plan "app" = .ok plan := by
    have needed := reachable.wellFormed.types.needed_of_plain atPoint (by decide)
    exact Catalog.plan_eq_ok.2 ⟨valid, by decide, _, used ▸ needed, by decide +kernel⟩
  obtain ⟨copy, copied, -, renamed, transcript⟩ := transcripts plan planned
  have declared : Catalog.empty.declareText text = (catalog, .ok ()) := by decide +kernel
  have files : runFrom (catalogOf host.toFiles ⟨some "app", ["a.yaml"]⟩) start =
      (.ok catalog, start) := catalogOf_of_readText _ (run_readText rfl) declared
  have planFound := planIn_eq_ok.2 ⟨catalog, files, planned⟩
  have foretold := predicts host ["a.yaml"] start
  have counted := foretold.counts plan start planFound
  rw [show s!"  {plan.types.length} CREATE TYPE, {plan.tables.length} CREATE TABLE statements" =
    "  1 CREATE TYPE, 1 CREATE TABLE statements" by decide +kernel] at counted
  exact ⟨planned, ⟨copy, copied, renamed, transcript⟩, planFound, counted, foretold⟩

end CqlSchema.CommandLine
