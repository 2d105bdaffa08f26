import CqlSchema.CommandLine.Run
import CqlSchema.Proofs.Catalog.Run
import CqlSchema.Proofs.Outcome
/-!
# Runs of commands that plan

On a host that is a state, an action takes a state to an outcome and a further state. Steps in a row
go on from the state that the first one left, and a failure ends the run where it arose. A command
that plans first declares its files, which leaves a reachable catalog, and plans without looking at
the host again.
-/

namespace CqlSchema.CommandLine

open CqlSchema.Outcome
open Settings (Context)

variable {σ α β : Type}

/-! ## Runs of actions -/

/-- Outcome of an action that starts in a state, with the state that it leaves. -/
def runFrom (action : Action (StateM σ) α) (state : σ) : Except Failure α × σ :=
  action.run.run state

/-- Steps in a row: the second goes on from the result and the state of the first. -/
theorem runFrom_bind (first : Action (StateM σ) α) (second : α → Action (StateM σ) β) (state : σ) :
    runFrom (first >>= second) state =
      match runFrom first state with
      | (.ok value, after) => runFrom (second value) after
      | (.error failure, after) => (.error failure, after) := by
  simp only [runFrom, ExceptT.run_bind, StateT.run_bind]
  rcases first.run.run state with ⟨outcome, after⟩
  cases outcome with
  | ok value => rfl
  | error failure => rfl

/-- Two steps in a row succeed exactly when the first does and the second does after it. -/
theorem runFrom_bind_eq_ok {first : Action (StateM σ) α} {second : α → Action (StateM σ) β}
    {state after : σ} {result : β} :
    runFrom (first >>= second) state = (.ok result, after) ↔
      ∃ value middle, runFrom first state = (.ok value, middle) ∧
        runFrom (second value) middle = (.ok result, after) := by
  rw [runFrom_bind]
  rcases runFrom first state with ⟨outcome, middle⟩
  cases outcome with
  | ok value => simp
  | error failure => simp

/-- Two steps in a row fail exactly when the first does or the second does after it. -/
theorem runFrom_bind_eq_error {first : Action (StateM σ) α} {second : α → Action (StateM σ) β}
    {state after : σ} {failure : Failure} :
    runFrom (first >>= second) state = (.error failure, after) ↔
      runFrom first state = (.error failure, after) ∨
        ∃ value middle, runFrom first state = (.ok value, middle) ∧
          runFrom (second value) middle = (.error failure, after) := by
  rw [runFrom_bind]
  rcases runFrom first state with ⟨outcome, middle⟩
  cases outcome with
  | ok value => simp
  | error other => simp

/-- An operation of the host always succeeds as an action. -/
theorem runFrom_lift (operation : StateM σ α) (state : σ) :
    runFrom (ExceptT.lift operation) state =
      (.ok (operation.run state).1, (operation.run state).2) :=
  rfl

/-- An attempt succeeds exactly when the operation of the host does. -/
theorem runFrom_attempt_eq_ok {wrap : Host.Fault → Failure}
    {operation : StateM σ (Except Host.Fault α)} {state after : σ} {value : α} :
    runFrom (attempt wrap operation) state = (.ok value, after) ↔
      operation.run state = (.ok value, after) := by
  rw [attempt, runFrom_bind, runFrom_lift]
  rcases operation.run state with ⟨outcome, middle⟩
  constructor
  · intro ran
    cases outcome with
    | ok result =>
      cases ran
      rfl
    | error fault => cases ran
  · intro found
    cases found
    rfl

/-- Printing lines prints them as one text. -/
theorem runFrom_printLines (host : Host (StateM σ)) (lines : List String) (state : σ) :
    runFrom (printLines host lines) state =
      (.ok (), ((host.print (String.join (lines.map (· ++ "\n")))).run state).2) :=
  rfl

/-- A file that holds the bytes of a text is read as that text. -/
theorem run_readText {files : Files (StateM σ)} {path text : String} {state after : σ}
    (read : (files.read path).run state = (.ok text.toUTF8, after)) :
    (files.readText path).run state = (.ok text, after) := by
  have decoded : String.fromUTF8? text.toUTF8 = some text := dif_pos text.isValidUTF8
  rw [Files.readText, StateT.run_bind, read]
  simp only [bind, decoded]
  rfl

/-! ## Declared files -/

/-- Files are declared when the first can be read, its text is declared, and the others are declared
after it. -/
theorem declareFiles_cons_eq_ok {files : Files (StateM σ)} {catalog declared : Catalog}
    {path : String} {rest : List String} {state after : σ} :
    runFrom (declareFiles files catalog (path :: rest)) state = (.ok declared, after) ↔
      ∃ text middle extended, (files.readText path).run state = (.ok text, middle) ∧
        catalog.declareText text = (extended, .ok ()) ∧
        runFrom (declareFiles files extended rest) middle = (.ok declared, after) := by
  rw [declareFiles, runFrom_bind_eq_ok]
  refine exists_congr fun text => exists_congr fun middle => ?_
  rw [runFrom_attempt_eq_ok]
  rcases shape : catalog.declareText text with ⟨extended, result⟩
  constructor
  · rintro ⟨read, ran⟩
    cases result with
    | error refusal => cases ran
    | ok nothing => exact ⟨extended, read, rfl, ran⟩
  · rintro ⟨_, read, declaredText, ran⟩
    cases declaredText
    exact ⟨read, ran⟩

/-- A context with a single file has the catalog that the text of the file declares. -/
theorem catalogOf_of_readText {files : Files (StateM σ)} (keyspace : Option String)
    {path text : String} {state after : σ} {catalog : Catalog}
    (read : (files.readText path).run state = (.ok text, after))
    (declared : Catalog.empty.declareText text = (catalog, .ok ())) :
    runFrom (catalogOf files ⟨keyspace, [path]⟩) state = (.ok catalog, after) :=
  runFrom_bind_eq_ok.2 ⟨[path], state, rfl,
    declareFiles_cons_eq_ok.2 ⟨text, after, catalog, read, declared, rfl⟩⟩

/-- What files declare one after the other is what their texts declare together. -/
theorem exists_texts_of_declareFiles {files : Files (StateM σ)} {catalog declared : Catalog}
    {paths : List String} {state after : σ}
    (ran : runFrom (declareFiles files catalog paths) state = (.ok declared, after)) :
    ∃ texts, texts.length = paths.length ∧ catalog.declareTexts texts = .ok declared := by
  induction paths generalizing catalog state with
  | nil =>
    cases ran
    exact ⟨[], rfl, rfl⟩
  | cons path rest ih =>
    obtain ⟨text, middle, extended, -, written, remaining⟩ := declareFiles_cons_eq_ok.1 ran
    obtain ⟨texts, counted, together⟩ := ih remaining
    refine ⟨text :: texts, congrArg (· + 1) counted, ?_⟩
    rw [Catalog.declareTexts, written]
    exact together

/-- The catalog of a context is one that texts declare together, so it is reachable. -/
theorem reachable_of_catalogOf {files : Files (StateM σ)} {context : Context} {catalog : Catalog}
    {state after : σ} (ran : runFrom (catalogOf files context) state = (.ok catalog, after)) :
    catalog.Reachable := by
  obtain ⟨paths, middle, -, declared⟩ := runFrom_bind_eq_ok.1 ran
  obtain ⟨texts, -, together⟩ := exists_texts_of_declareFiles declared
  exact Catalog.reachable_of_ofTexts together

/-! ## Plans -/

/-- Planning a catalog does not touch the host. -/
theorem runFrom_planOf (catalog : Catalog) (keyspace : String) (state : σ) :
    runFrom (planOf catalog keyspace : Action (StateM σ) Plan) state =
      ((catalog.plan keyspace).mapError .planning, state) := by
  unfold planOf
  cases catalog.plan keyspace with
  | ok plan => rfl
  | error error => rfl

variable {files : Files (StateM σ)} {host : Host (StateM σ)} {keyspace : String}
  {paths : List String} {state after : σ}

/-- A context is planned when its files are declared and their catalog has a plan. -/
theorem planIn_eq_ok {plan : Plan} :
    runFrom (planIn files ⟨some keyspace, paths⟩) state = (.ok plan, after) ↔
      ∃ catalog, runFrom (catalogOf files ⟨some keyspace, paths⟩) state = (.ok catalog, after) ∧
        catalog.plan keyspace = .ok plan := by
  show runFrom (catalogOf files _ >>= fun catalog => planOf catalog keyspace) state = _ ↔ _
  simp only [runFrom_bind_eq_ok, runFrom_planOf, Prod.mk.injEq, mapError_eq_ok]
  constructor
  · rintro ⟨catalog, middle, declared, planned, rfl⟩
    exact ⟨catalog, declared, planned⟩
  · rintro ⟨catalog, declared, planned⟩
    exact ⟨catalog, after, declared, planned, rfl⟩

/-- Planning a context fails when its files are not declared, or when their catalog has no plan. -/
theorem planIn_eq_error {failure : Failure} :
    runFrom (planIn files ⟨some keyspace, paths⟩) state = (.error failure, after) ↔
      runFrom (catalogOf files ⟨some keyspace, paths⟩) state = (.error failure, after) ∨
        ∃ catalog error,
          runFrom (catalogOf files ⟨some keyspace, paths⟩) state = (.ok catalog, after) ∧
          catalog.plan keyspace = .error error ∧ failure = .planning error := by
  show runFrom (catalogOf files _ >>= fun catalog => planOf catalog keyspace) state = _ ↔ _
  simp only [runFrom_bind_eq_error, runFrom_planOf, Prod.mk.injEq, mapError_eq_error]
  constructor
  · rintro (undeclared | ⟨catalog, middle, declared, ⟨error, refused, rfl⟩, rfl⟩)
    · exact .inl undeclared
    · exact .inr ⟨catalog, error, declared, refused, rfl⟩
  · rintro (undeclared | ⟨catalog, error, declared, refused, rfl⟩)
    · exact .inl undeclared
    · exact .inr ⟨catalog, after, declared, ⟨error, refused, rfl⟩, rfl⟩

/-- Where a context is planned, rendering it to the console prints its plan and nothing else. -/
theorem render_of_planIn {context : Context} {plan : Plan} (format : Format)
    (planned : runFrom (planIn host.toFiles context) state = (.ok plan, after)) :
    runFrom (render host context none format) state =
      (.ok (), ((host.print (renderPlan format plan)).run after).2) := by
  show runFrom (planIn host.toFiles context >>= fun plan => _) state = _
  rw [runFrom_bind, planned]
  rfl

end CqlSchema.CommandLine
