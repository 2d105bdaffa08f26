import CqlSchema.Proofs.CommandLine.Faithful
import CqlSchema.Proofs.CommandLine.Handover
import CqlSchema.Proofs.CommandLine.Script
import CqlSchema.Proofs.Plan.Execution
/-!
# Rendering, rehearsing and applying

A plan can be printed, shown by a dry run or applied. The three commands find the same plan, or the
same failure, since they look at files and settings in the same way. So what is printed and what is
handed to the program of the target is one list of statements, up to the first call that fails.
-/

namespace CqlSchema

namespace CommandLine

open Settings (Connection Target)

variable {σ : Type} {host : Host (StateM σ)}

/-! ## Printed lines -/

/-- Lines without line breaks are found again in what is printed of them, with an empty rest. -/
theorem splitOn_lines {lines : List String} (unbroken : ∀ line ∈ lines, '\n' ∉ line.toList) :
    (String.join (lines.map (· ++ "\n"))).toList.splitOn '\n' =
      lines.map String.toList ++ [[]] := by
  have joined : (String.join (lines.map (· ++ "\n"))).toList =
      ['\n'].intercalate (lines.map String.toList ++ [[]]) := by
    clear unbroken
    induction lines with
    | nil => rfl
    | cons line rest ih =>
      rw [String.toList_join] at ih ⊢
      rw [List.map_cons, List.flatMap_cons, ih, List.map_cons, List.cons_append,
        List.intercalate_cons_of_ne_nil (by simp), String.toList_append]
      rfl
  rw [joined]
  refine List.splitOn_intercalate '\n' (fun line member => ?_) (by simp)
  rcases List.mem_append.1 member with written | rest
  · obtain ⟨text, inside, rfl⟩ := List.mem_map.1 written
    exact unbroken text inside
  · obtain rfl := List.mem_singleton.1 rest
    exact List.not_mem_nil

/-- The lines of a script that are not empty are its statements. -/
theorem filter_splitOn_script {plan : Plan} (lines : ∀ text ∈ plan.statements, OneStatement text) :
    ((script plan).toList.splitOn '\n').filter (· ≠ []) = plan.statements.map String.toList := by
  cases isFull : plan.isEmpty with
  | true =>
    have bare : script plan = "\n" := by
      rw [script, Plan.isEmpty_iff.1 isFull]
      rfl
    rw [bare, Plan.isEmpty_iff.1 isFull]
    decide
  | false =>
    rw [splitOn_script isFull lines, List.filter_append, List.filter_eq_self.2]
    · exact List.append_nil _
    · intro line member
      obtain ⟨text, inside, rfl⟩ := List.mem_map.1 member
      have ended := (lines text inside).ended
      refine decide_eq_true fun empty => ?_
      rw [empty] at ended
      cases ended

/-- A dry run shows what the recorder notes, which is the statements of the plan. -/
theorem rehearse_eq (plan : Plan) : rehearse plan = plan.statements :=
  congrArg Prod.snd (plan.apply_record [])

/-! ## Commands that plan -/

section Prepare

variable {m : Type → Type} [Monad m]

/-- What every command that plans does first: it loads the connection settings, and plans the
context that it is given. -/
def prepare (host : Host m) (keyspace : Option String) (files : List String) :
    Action m (Connection × Plan) := do
  let connection ← loadConnection host
  let context ← ExceptT.lift (contextFor host.toFiles keyspace files)
  let plan ← planIn host.toFiles context
  return (connection, plan)

/-- Line that a dry run prints first. -/
def rehearsalLine (plan : Plan) : String :=
  s!"[DRY RUN] Would apply the following to {plan.keyspace}:"

/-- Line that a real run prints first. -/
def applicationLine (plan : Plan) (target : Target) : String :=
  s!"Applying {plan.size} statements to {plan.keyspace} via {target.host}:{target.port}"

/-- What a real run does with a plan. -/
def applyPlan (host : Host m) (connection : Connection) (plan : Plan) : Action m Unit := do
  let target ← targetOf host connection
  printLines host [applicationLine plan target]
  match ← ExceptT.lift (plan.apply (query host target)) with
  | .ok count => printLines host [s!"Applied {count} statements."]
  | .error error => throw (.execution error)

variable [LawfulMonad m] (host : Host m) (keyspace : Option String) (files : List String)

/-- Rendering prints the script of the plan that was prepared. -/
theorem run_render :
    Invocation.run host ⟨keyspace, .text, .render files none⟩ =
      prepare host keyspace files >>= fun found => ExceptT.lift (host.print (script found.2)) := by
  simp only [prepare, bind_assoc, pure_bind]
  rfl

/-- A dry run prints the statements of the plan that was prepared. -/
theorem run_dry :
    Invocation.run host ⟨keyspace, .text, .apply files true⟩ =
      prepare host keyspace files >>= fun found =>
        printLines host (rehearsalLine found.2 :: rehearse found.2) := by
  simp only [prepare, bind_assoc, pure_bind]
  rfl

/-- A real run applies the plan that was prepared. -/
theorem run_apply :
    Invocation.run host ⟨keyspace, .text, .apply files false⟩ =
      prepare host keyspace files >>= fun found => applyPlan host found.1 found.2 := by
  simp only [prepare, bind_assoc, pure_bind]
  rfl

end Prepare

/-- Preparing a plan is followed without a note. -/
theorem follows_prepare {allowed : Event → Prop} (host : Host (StateM σ))
    (keyspace : Option String) (files : List String) :
    FollowsAction allowed (prepare host.traced keyspace files) (prepare host keyspace files) := by
  refine (follows_loadConnection host).bind fun connection => ?_
  refine (followsAction_lift (follows_contextFor host.toFiles keyspace files)).bind fun given => ?_
  refine (follows_planIn host.toFiles given).bind fun plan => ?_
  exact followsAction_pure (connection, plan)

section Prepared

variable {keyspace : Option String} {files : List String} {found : Connection × Plan}
  {state after : σ}

/-- A plan is prepared when the connection settings are loaded and the context is planned. -/
theorem prepare_eq_ok :
    runFrom (prepare host keyspace files) state = (.ok found, after) ↔
      ∃ loaded, runFrom (loadConnection host) state = (.ok found.1, loaded) ∧
        ∃ context middle, (contextFor host.toFiles keyspace files).run loaded = (context, middle) ∧
          runFrom (planIn host.toFiles context) middle = (.ok found.2, after) := by
  simp only [prepare, runFrom_bind_eq_ok]
  constructor
  · rintro ⟨connection, loaded, settings, context, middle, given, plan, last, planned, ran⟩
    cases ran
    cases given
    exact ⟨loaded, settings, _, _, rfl, planned⟩
  · rintro ⟨loaded, settings, context, middle, given, planned⟩
    refine ⟨found.1, loaded, settings, context, middle, ?_, found.2, after, planned, rfl⟩
    rw [runFrom_lift, given]

/-- A plan that is prepared is one of a reachable catalog. -/
theorem exists_catalog_of_prepare
    (ran : runFrom (prepare host keyspace files) state = (.ok found, after)) :
    ∃ catalog name, catalog.Reachable ∧ Catalog.plan catalog name = .ok found.2 := by
  obtain ⟨loaded, -, ⟨name, paths⟩, middle, -, planned⟩ := prepare_eq_ok.1 ran
  cases name with
  | none => cases planned
  | some name =>
    obtain ⟨catalog, declared, found⟩ := planIn_eq_ok.1 planned
    exact ⟨catalog, name, reachable_of_catalogOf declared, found⟩

end Prepared

/-- The line that a dry run prints first is one line where the keyspace is valid. -/
theorem not_mem_rehearsalLine {plan : Plan} (valid : isIdentifier plan.keyspace = true) :
    '\n' ∉ (rehearsalLine plan).toList := by
  have unbroken : '\n' ∉ plan.keyspace.toList := not_mem_of_isIdentifier valid (by decide)
  have written : rehearsalLine plan =
      "[DRY RUN] Would apply the following to " ++ plan.keyspace ++ ":" := rfl
  rw [written, String.toList_append, String.toList_append, List.mem_append, List.mem_append]
  rintro ((opening | inside) | closing)
  · revert opening
    decide
  · exact unbroken inside
  · revert closing
    decide

/-! ## Targets -/

/-- The environment of a host has no port, or a text that is a port. -/
def SoundPort (host : Host (StateM σ)) : Prop :=
  ∀ state text, ((host.environment "CQLKIT_PORT").run state).1 = some text →
    ∃ port, Settings.portOfText text = .ok port

/-- Where the port is sound, connection settings have a target. -/
theorem SoundPort.exists_target (sound : SoundPort host) (connection : Connection) (state : σ) :
    ∃ target after, runFrom (targetOf host connection) state = (.ok target, after) := by
  rcases program : (host.environment "CQLKIT_CQLSH").run state with ⟨programText, first⟩
  rcases name : (host.environment "CQLKIT_HOST").run first with ⟨nameText, second⟩
  rcases port : (host.environment "CQLKIT_PORT").run second with ⟨portText, third⟩
  have found : ∃ target, connection.target ⟨programText, nameText, portText⟩ = .ok target := by
    cases portText with
    | none => exact ⟨_, rfl⟩
    | some text =>
      obtain ⟨number, read⟩ := sound second text (congrArg Prod.fst port)
      rw [Connection.target]
      simp only [read]
      exact ⟨_, rfl⟩
  obtain ⟨target, found⟩ := found
  refine ⟨target, third, ?_⟩
  rw [targetOf]
  simp only [runFrom_bind, runFrom_lift, program, name, port, found]
  rfl

/-! ## Commands from one state -/

/-- Outcome of a command, with the state that it leaves and its trace. -/
structure Observation (σ : Type) where
  outcome : Except Failure Unit
  state : σ
  trace : List Event

/-- What a command on a host does from a state, when its output is a text. -/
def observe (host : Host (StateM σ)) (keyspace : Option String) (command : Command) (state : σ) :
    Observation σ :=
  let (outcome, after, trace) :=
    runFrom (Invocation.run host.traced ⟨keyspace, .text, command⟩) (state, [])
  ⟨outcome, after, trace⟩

/-- What is observed of a command is what the command does on the host itself. -/
theorem observe_faithful (host : Host (StateM σ)) (keyspace : Option String) (command : Command)
    (state : σ) :
    runFrom (Invocation.run host ⟨keyspace, .text, command⟩) state =
      ((observe host keyspace command state).outcome,
        (observe host keyspace command state).state) := by
  let invocation : Invocation := ⟨keyspace, .text, command⟩
  have follows : FollowsAction (fun _ => True) (invocation.run host.traced)
      (invocation.run host) := follows_run (fun _ => trivial) _ (fun _ _ _ => trivial) host
  obtain ⟨notes, ran, -⟩ := follows state []
  have traced : runFrom (invocation.run host.traced) (state, []) = _ := ran
  rw [observe, traced]
  rfl

section Observe

variable {keyspace : Option String} {files : List String} {command : Command} {state after : σ}
  {use : Connection × Plan → Action (StateM (σ × List Event)) Unit}

/-- A command that prepares a plan fails where that fails, and does nothing else. -/
theorem observe_of_unprepared (prepares : Invocation.run host.traced ⟨keyspace, .text, command⟩ =
      prepare host.traced keyspace files >>= use) {failure : Failure}
    (failed : runFrom (prepare host keyspace files) state = (.error failure, after)) :
    observe host keyspace command state = ⟨.error failure, after, []⟩ := by
  rw [observe, prepares, runFrom_bind, (follows_prepare host keyspace files).runFrom_eq, failed]

/-- A command that prepares a plan goes on with it without having done anything. -/
theorem observe_of_prepared (prepares : Invocation.run host.traced ⟨keyspace, .text, command⟩ =
      prepare host.traced keyspace files >>= use) {found : Connection × Plan}
    (ran : runFrom (prepare host keyspace files) state = (.ok found, after))
    {outcome : Except Failure Unit} {last : σ} {trace : List Event}
    (used : runFrom (use found) (after, []) = (outcome, (last, trace))) :
    observe host keyspace command state = ⟨outcome, last, trace⟩ := by
  rw [observe, prepares, runFrom_bind, (follows_prepare host keyspace files).runFrom_eq, ran]
  simp only [used]

end Observe

/-- Printing lines on a traced host notes them as one text. -/
theorem runFrom_printLines_traced (host : Host (StateM σ)) (lines : List String) (state : σ)
    (trace : List Event) :
    ∃ after, runFrom (printLines host.traced lines) (state, trace) =
      (.ok (), (after, trace ++ [.printed (String.join (lines.map (· ++ "\n")))])) :=
  ⟨_, rfl⟩

/-- Applying a plan on a traced host hands its statements to the target, and ends as that does. -/
theorem runFrom_applyPlan {connection : Connection} {state middle : σ} {target : Target}
    (aimed : runFrom (targetOf host connection) state = (.ok target, middle)) (plan : Plan) :
    ∃ outcome after trace,
      runFrom (applyPlan host.traced connection plan) (state, []) =
        (((outcome : Except (ApplyError QueryFault) Nat).map fun _ => ()).mapError .execution,
          (after, trace)) ∧
      HandsOver target 0 plan.statements (callsIn trace) outcome := by
  obtain ⟨announced, opening⟩ :=
    runFrom_printLines_traced host [applicationLine plan target] middle []
  let notes : List Event := [.printed (String.join ([applicationLine plan target].map (· ++ "\n")))]
  obtain ⟨outcome, executed, calls, ran, hands⟩ :=
    handsOver_executeAll host target plan.statements 0 announced notes
  have made : callsIn (notes ++ calls.map .started) = calls := callsIn_append_started rfl calls
  have started : runFrom (applyPlan host.traced connection plan) (state, []) =
      runFrom (match outcome with
        | .ok count => printLines host.traced [s!"Applied {count} statements."]
        | .error error => throw (.execution error)) (executed, notes ++ calls.map .started) := by
    rw [applyPlan, runFrom_bind, (follows_targetOf host connection).runFrom_eq, aimed]
    simp only [runFrom_bind, runFrom_lift, opening, List.nil_append, Plan.apply]
    rw [ran]
  cases outcome with
  | ok count =>
    obtain ⟨after, closing⟩ := runFrom_printLines_traced host [s!"Applied {count} statements."]
      executed (notes ++ calls.map .started)
    refine ⟨.ok count, after, _, started.trans closing, ?_⟩
    rw [callsIn, List.filterMap_append, ← callsIn, made]
    simpa using hands
  | error error =>
    refine ⟨.error error, executed, _, started, ?_⟩
    rwa [made]

/-! ## One list of statements -/

/-- Rendering, a dry run and a real run work on the statements of one plan. -/
structure SameStatements (plan : Plan) (target : Target)
    (rendered rehearsed applied : Observation σ) : Prop where
  /-- Rendering prints the statements: they are its lines that are not empty. -/
  renders : rendered.outcome = .ok () ∧
    (linesIn rendered.trace).filter (· ≠ []) = plan.statements.map String.toList
  /-- A dry run prints the statements below its first line. -/
  rehearses : rehearsed.outcome = .ok () ∧
    linesIn rehearsed.trace =
      (rehearsalLine plan).toList :: (plan.statements.map String.toList ++ [[]])
  /-- Neither of them starts a program. -/
  still : callsIn rendered.trace = [] ∧ callsIn rehearsed.trace = []
  /-- A real run whose calls all succeed has handed over the statements. -/
  applies : (∀ call ∈ callsIn applied.trace, call.Succeeds) →
    applied.outcome = .ok () ∧
      (callsIn applied.trace).map ProgramCall.command = plan.statements.map target.command
  /-- A real run hands over the statements up to the first call that fails, and reports the
  statement of that call with its number. -/
  stops : ∀ before call later, callsIn applied.trace = before ++ call :: later →
    (∀ earlier ∈ before, earlier.Succeeds) → ¬ call.Succeeds →
    (callsIn applied.trace).map ProgramCall.command =
        (plan.statements.take (before.length + 1)).map target.command ∧
      ∃ statement fault, plan.statements[before.length]? = some statement ∧
        applied.outcome = .error (.execution (.execution before.length statement fault))

/-- Where a plan is prepared and there is a target, rendering, a dry run and a real run work on the
statements of that plan. -/
theorem sameStatements_of_prepare {keyspace : Option String} {files : List String}
    {found : Connection × Plan} {target : Target} {state after middle : σ}
    (ran : runFrom (prepare host keyspace files) state = (.ok found, after))
    (aimed : runFrom (targetOf host found.1) after = (.ok target, middle)) :
    SameStatements found.2 target (observe host keyspace (.render files none) state)
      (observe host keyspace (.apply files true) state)
      (observe host keyspace (.apply files false) state) := by
  obtain ⟨catalog, name, reachable, planned⟩ := exists_catalog_of_prepare ran
  have statements := reachable.wellFormed.oneStatement planned
  have valid : isIdentifier found.2.keyspace = true := by
    obtain ⟨valid, -, needed, -, shape⟩ := Catalog.plan_eq_ok.1 planned
    rwa [shape]
  have shown : observe host keyspace (.render files none) state =
      ⟨.ok (), _, [.printed (script found.2)]⟩ :=
    observe_of_prepared (run_render host.traced keyspace files) ran rfl
  have foretold : observe host keyspace (.apply files true) state = ⟨.ok (), _, [.printed _]⟩ :=
    observe_of_prepared (run_dry host.traced keyspace files) ran rfl
  obtain ⟨outcome, last, trace, applying, hands⟩ := runFrom_applyPlan aimed found.2
  have done : observe host keyspace (.apply files false) state = ⟨_, last, trace⟩ :=
    observe_of_prepared (run_apply host.traced keyspace files) ran applying
  rw [shown, foretold, done]
  refine ⟨⟨rfl, ?_⟩, ⟨rfl, ?_⟩, ⟨rfl, rfl⟩, fun succeed => ?_,
    fun before call later split succeed fails => ?_⟩
  · rw [linesIn_printed]
    exact filter_splitOn_script statements
  · rw [linesIn_printed, rehearse_eq, splitOn_lines]
    · rfl
    · rintro line (_ | ⟨_, inside⟩)
      · exact not_mem_rehearsalLine valid
      · exact (statements line inside).not_mem_newline
  · obtain ⟨commands, rfl⟩ := hands.whole succeed
    exact ⟨rfl, commands⟩
  · obtain ⟨commands, statement, fault, place, rfl⟩ := hands.stopped split succeed fails
    refine ⟨commands, statement, fault, place, ?_⟩
    rw [Nat.zero_add]
    rfl

/-- Rendering to the console, a dry run and a real run look for a plan in the same way. When they
do not find one, all of them fail with the same failure and have neither printed anything nor
started a program. When they do, they work on the same statements. What is observed of them is what
they do on the host itself. -/
theorem runs_agree (host : Host (StateM σ)) (sound : SoundPort host) (keyspace : Option String)
    (files : List String) (state : σ) :
    let rendered := observe host keyspace (.render files none) state
    let rehearsed := observe host keyspace (.apply files true) state
    let applied := observe host keyspace (.apply files false) state
    (∀ command, runFrom (Invocation.run host ⟨keyspace, .text, command⟩) state =
      ((observe host keyspace command state).outcome,
        (observe host keyspace command state).state)) ∧
    (∀ failure after, runFrom (prepare host keyspace files) state = (.error failure, after) →
      rendered = ⟨.error failure, after, []⟩ ∧ rehearsed = ⟨.error failure, after, []⟩ ∧
        applied = ⟨.error failure, after, []⟩) ∧
    ∀ found after, runFrom (prepare host keyspace files) state = (.ok found, after) →
      ∃ target middle, runFrom (targetOf host found.1) after = (.ok target, middle) ∧
        SameStatements found.2 target rendered rehearsed applied := by
  intro rendered rehearsed applied
  refine ⟨fun command => observe_faithful host keyspace command state,
    fun failure after failed => ?_, fun found after ran => ?_⟩
  · exact ⟨observe_of_unprepared (run_render host.traced keyspace files) failed,
      observe_of_unprepared (run_dry host.traced keyspace files) failed,
      observe_of_unprepared (run_apply host.traced keyspace files) failed⟩
  · obtain ⟨target, middle, aimed⟩ := sound.exists_target found.1 after
    exact ⟨target, middle, aimed, sameStatements_of_prepare ran aimed⟩

/-- A type and a table that requires it are rendered, rehearsed and applied, and the second call
fails: both statements were handed over by then, and the one of the table is reported. -/
theorem runs_agree_until_second_call :
    let text := "types: \x7bP: \x7bx: int\x7d\x7d\ntables: \x7bt: \x7bcolumns: " ++
      "\x7bid: \x7btype: \x22frozen<P>\x22, key: \x22partition\x22\x7d\x7d\x7d\x7d"
    let host : Host (StateM Nat) :=
      { read := fun _ => return .ok text.toUTF8
        write := fun _ _ => return .ok ()
        append := fun _ _ => return .ok ()
        createDirectories := fun _ => return .ok ()
        remove := fun _ => return .ok ()
        isPresent := fun _ => return false
        isFile := fun _ => return true
        program := fun _ => return .ok .empty
        environment := fun name => return [("HOME", "/"), ("CQLKIT_PORT", "9142")].lookup name
        print := fun _ => return ()
        start := fun _ _ count => (.ok ⟨.status count, .empty⟩, count + 1) }
    let plan : Plan := ⟨"app", ["CREATE TYPE IF NOT EXISTS app.P(x int);"],
      ["CREATE TABLE IF NOT EXISTS app.t(id frozen<P>) PRIMARY KEY (id);"]⟩
    let target : Settings.Target := ⟨"cqlsh", "127.0.0.1", 9142⟩
    let applied := observe host (some "app") (.apply ["a.yaml"] false) 0
    SameStatements plan target (observe host (some "app") (.render ["a.yaml"] none) 0)
        (observe host (some "app") (.apply ["a.yaml"] true) 0) applied ∧
      (callsIn applied.trace).map ProgramCall.command = plan.statements.map target.command ∧
      ∃ statement fault, plan.statements[1]? = some statement ∧
        applied.outcome = .error (.execution (.execution 1 statement fault)) := by
  intro text host plan target applied
  have sound : SoundPort host := by
    rintro state text found
    obtain rfl : "9142" = text := Option.some.inj found
    exact ⟨9142, by decide⟩
  let point : UserType := ⟨0, "P", [("x", .scalar false .int)]⟩
  let catalog := Catalog.empty.performAll [.declareType "P" point.fields,
    .declareTable ⟨"t", none, [("id", .partition (.user true point.handle))]⟩]
  have reachable : catalog.Reachable := ⟨_, rfl⟩
  have declared : Catalog.empty.declareText text = (catalog, .ok ()) := by decide +kernel
  have used : catalog.tables.tables.flatMap Table.userTypes = [point.handle] := by decide
  have atPoint : catalog.types.resolve point.handle = some point := by decide
  have planned : catalog.plan "app" = .ok plan := by
    have needed := reachable.wellFormed.types.needed_of_plain atPoint (by decide)
    exact Catalog.plan_eq_ok.2 ⟨by decide, by decide, _, used ▸ needed, by decide +kernel⟩
  have prepared : runFrom (prepare host (some "app") ["a.yaml"]) 0 = (.ok (.empty, plan), 0) := by
    have files : runFrom (catalogOf host.toFiles ⟨some "app", ["a.yaml"]⟩) 0 = (.ok catalog, 0) :=
      catalogOf_of_readText _ (run_readText rfl) declared
    have found := planIn_eq_ok.2 ⟨catalog, files, planned⟩
    exact prepare_eq_ok.2 ⟨0, rfl, _, 0, rfl, found⟩
  obtain ⟨-, -, agree⟩ := runs_agree host sound (some "app") ["a.yaml"] 0
  obtain ⟨found, middle, aimed, same⟩ := agree _ _ prepared
  obtain rfl : target = found := by
    have computed : runFrom (targetOf host .empty) 0 = (.ok target, 0) := rfl
    rw [computed] at aimed
    cases aimed
    rfl
  let call (count : Nat) (statement : String) : ProgramCall :=
    ⟨target.program, (target.command statement).2, .ok ⟨.status count, .empty⟩⟩
  have calls : callsIn applied.trace =
      [call 0 "CREATE TYPE IF NOT EXISTS app.P(x int);",
        call 1 "CREATE TABLE IF NOT EXISTS app.t(id frozen<P>) PRIMARY KEY (id);"] := by
    have ran : applied = ⟨_, _, _⟩ :=
      observe_of_prepared (run_apply host.traced (some "app") ["a.yaml"]) prepared rfl
    rw [ran]
    rfl
  have first : ∀ earlier ∈ [call 0 "CREATE TYPE IF NOT EXISTS app.P(x int);"], earlier.Succeeds :=
    List.forall_mem_singleton.2 ⟨_, rfl, rfl⟩
  obtain ⟨commands, statement, fault, place, failed⟩ := same.stops _ _ [] calls first (by
    rintro ⟨execution, ran, clean⟩
    cases ran
    cases clean)
  exact ⟨same, commands, statement, fault, place, failed⟩

end CommandLine

end CqlSchema
