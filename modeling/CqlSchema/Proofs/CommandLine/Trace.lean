import CqlSchema.Proofs.CommandLine.Planning
/-!
# Traces of runs

A traced host does what a host does, and notes the texts that are printed and the programs that are
started, with their answers. Looking at files and at variables is not noted. So an action on a
traced host follows the same action on the host itself, and the events that it may note are those of
its steps; all that happens before a plan is printed or applied notes nothing.
-/

namespace CqlSchema

/-- A program that was started with arguments, and the answer. -/
structure ProgramCall where
  program : String
  arguments : List String
  answer : Except Host.Fault Execution

/-- What is noted of a run: texts that it prints, and programs that it starts. -/
inductive Event where
  | printed (text : String)
  | started (call : ProgramCall)

variable {σ α β : Type}

/-- An operation of which nothing is noted. -/
def quietly (operation : StateM σ α) : StateM (σ × List Event) α := fun (state, trace) =>
  let (value, after) := operation.run state
  (value, (after, trace))

/-- An operation of which an event is noted. -/
def noting (event : α → Event) (operation : StateM σ α) : StateM (σ × List Event) α :=
  fun (state, trace) =>
    let (value, after) := operation.run state
    (value, (after, trace ++ [event value]))

/-- A noted operation goes as it is, and its event stands at the end of the trace. -/
theorem run_noting (event : α → Event) (operation : StateM σ α) (state : σ)
    (trace : List Event) :
    (noting event operation).run (state, trace) = ((operation.run state).1,
      ((operation.run state).2, trace ++ [event (operation.run state).1])) :=
  rfl

/-- Files that are used without a note. -/
def Files.quiet (files : Files (StateM σ)) : Files (StateM (σ × List Event)) where
  read path := quietly (files.read path)
  write path content := quietly (files.write path content)
  append path content := quietly (files.append path content)
  createDirectories path := quietly (files.createDirectories path)
  remove path := quietly (files.remove path)
  isPresent path := quietly (files.isPresent path)
  isFile path := quietly (files.isFile path)
  program path := quietly (files.program path)

/-- Host that notes what is printed and what is started. -/
def Host.traced (host : Host (StateM σ)) : Host (StateM (σ × List Event)) where
  toFiles := host.toFiles.quiet
  environment name := quietly (host.environment name)
  print text := noting (fun _ => .printed text) (host.print text)
  start program arguments :=
    noting (fun answer => .started ⟨program, arguments, answer⟩) (host.start program arguments)

/-! ## Operations that follow others -/

/-- A traced operation does what a plain one does, and notes only events that are allowed. -/
def Follows (allowed : Event → Prop) (traced : StateM (σ × List Event) α) (plain : StateM σ α) :
    Prop :=
  ∀ state trace, ∃ notes,
    traced.run (state, trace) = ((plain.run state).1, ((plain.run state).2, trace ++ notes)) ∧
      ∀ event ∈ notes, allowed event

variable {allowed : Event → Prop}

/-- An operation of which nothing is noted follows itself. -/
theorem follows_quietly (operation : StateM σ α) :
    Follows allowed (quietly operation) operation := by
  intro state trace
  refine ⟨[], ?_, List.forall_mem_nil _⟩
  rw [List.append_nil]
  rfl

/-- An operation of which an event is noted follows itself where the event is allowed. -/
theorem follows_noting {event : α → Event} (granted : ∀ answer, allowed (event answer))
    (operation : StateM σ α) : Follows allowed (noting event operation) operation :=
  fun state trace =>
    ⟨_, run_noting event operation state trace, List.forall_mem_singleton.2 (granted _)⟩

/-- A result follows itself. -/
theorem follows_pure (value : α) :
    Follows allowed (pure value : StateM (σ × List Event) α) (pure value : StateM σ α) :=
  follows_quietly (pure value)

/-- Operations in a row follow operations in a row. -/
theorem Follows.bind {traced : StateM (σ × List Event) α} {plain : StateM σ α}
    {tracedNext : α → StateM (σ × List Event) β} {plainNext : α → StateM σ β}
    (first : Follows allowed traced plain)
    (second : ∀ value, Follows allowed (tracedNext value) (plainNext value)) :
    Follows allowed (traced >>= tracedNext) (plain >>= plainNext) := by
  intro state trace
  obtain ⟨notes, ran, granted⟩ := first state trace
  obtain ⟨more, next, others⟩ := second (plain.run state).1 (plain.run state).2 (trace ++ notes)
  refine ⟨notes ++ more, ?_, List.forall_mem_append.2 ⟨granted, others⟩⟩
  rw [StateT.run_bind, StateT.run_bind, ran, ← List.append_assoc]
  exact next

/-- Reading a text is followed without a note. -/
theorem follows_readText (files : Files (StateM σ)) (path : String) :
    Follows allowed (files.quiet.readText path) (files.readText path) := by
  refine (follows_quietly (files.read path)).bind fun outcome => ?_
  cases outcome with
  | error fault => exact follows_pure _
  | ok content =>
    dsimp only
    cases String.fromUTF8? content with
    | some text => exact follows_pure _
    | none => exact follows_pure _

namespace CommandLine

open Settings (Context Connection)

/-- Loading the context is followed without a note. -/
theorem follows_loadContext (files : Files (StateM σ)) :
    Follows allowed (loadContext files.quiet) (loadContext files) := by
  refine (follows_quietly (files.isPresent Context.path)).bind fun present => ?_
  cases present with
  | false => exact follows_pure _
  | true =>
    refine (follows_readText files Context.path).bind fun outcome => ?_
    cases outcome with
    | ok text => exact follows_pure _
    | error fault => exact follows_pure _

/-- Finding the context of a command is followed without a note. -/
theorem follows_contextFor (files : Files (StateM σ)) (keyspace : Option String)
    (given : List String) :
    Follows allowed (contextFor files.quiet keyspace given) (contextFor files keyspace given) :=
  (follows_loadContext files).bind fun _ => follows_pure _

/-! ## Actions that follow others -/

/-- A traced action does what a plain one does, and notes only events that are allowed. -/
def FollowsAction (allowed : Event → Prop) (traced : Action (StateM (σ × List Event)) α)
    (plain : Action (StateM σ) α) : Prop :=
  Follows allowed traced.run plain.run

/-- An action that is followed without a note leaves the trace as it was. -/
theorem FollowsAction.runFrom_eq {traced : Action (StateM (σ × List Event)) α}
    {plain : Action (StateM σ) α} (follows : FollowsAction (fun _ => False) traced plain)
    (state : σ) (trace : List Event) :
    runFrom traced (state, trace) =
      ((runFrom plain state).1, ((runFrom plain state).2, trace)) := by
  obtain ⟨notes, ran, granted⟩ := follows state trace
  rw [List.eq_nil_iff_forall_not_mem.2 granted, List.append_nil] at ran
  exact ran

/-- An operation that is followed is followed as an action. -/
theorem followsAction_lift {traced : StateM (σ × List Event) α} {plain : StateM σ α}
    (follows : Follows allowed traced plain) :
    FollowsAction allowed (ExceptT.lift traced) (ExceptT.lift plain) :=
  follows.bind fun _ => follows_pure _

/-- A result follows itself. -/
theorem followsAction_pure (value : α) :
    FollowsAction allowed (pure value : Action (StateM (σ × List Event)) α)
      (pure value : Action (StateM σ) α) :=
  follows_pure _

/-- A failure follows itself. -/
theorem followsAction_throw (failure : Failure) :
    FollowsAction allowed (throw failure : Action (StateM (σ × List Event)) α)
      (throw failure : Action (StateM σ) α) :=
  follows_pure _

/-- Actions in a row follow actions in a row. -/
theorem FollowsAction.bind {traced : Action (StateM (σ × List Event)) α}
    {plain : Action (StateM σ) α} {tracedNext : α → Action (StateM (σ × List Event)) β}
    {plainNext : α → Action (StateM σ) β} (first : FollowsAction allowed traced plain)
    (second : ∀ value, FollowsAction allowed (tracedNext value) (plainNext value)) :
    FollowsAction allowed (traced >>= tracedNext) (plain >>= plainNext) := by
  rw [FollowsAction, ExceptT.run_bind, ExceptT.run_bind]
  refine Follows.bind first fun outcome => ?_
  cases outcome with
  | ok value => exact second value
  | error failure => exact follows_pure _

/-- An attempt of an operation that is followed is followed. -/
theorem followsAction_attempt {traced : StateM (σ × List Event) (Except Host.Fault α)}
    {plain : StateM σ (Except Host.Fault α)} (follows : Follows allowed traced plain)
    (failure : Host.Fault → Failure) :
    FollowsAction allowed (attempt failure traced) (attempt failure plain) := by
  refine (followsAction_lift follows).bind fun outcome => ?_
  cases outcome with
  | ok value => exact followsAction_pure value
  | error fault => exact followsAction_throw (failure fault)

/-! ## What is done before a plan is used -/

/-- Declaring files is followed without a note. -/
theorem follows_declareFiles (files : Files (StateM σ)) (catalog : Catalog) (paths : List String) :
    FollowsAction allowed (declareFiles files.quiet catalog paths)
      (declareFiles files catalog paths) := by
  induction paths generalizing catalog with
  | nil => exact followsAction_pure catalog
  | cons path rest ih =>
    refine (followsAction_attempt (follows_readText files path) _).bind fun text => ?_
    rcases catalog.declareText text with ⟨extended, outcome⟩
    cases outcome with
    | ok nothing => exact ih extended
    | error error => exact followsAction_throw _

/-- Declaring the files of a context is followed without a note. -/
theorem follows_catalogOf (files : Files (StateM σ)) (context : Context) :
    FollowsAction allowed (catalogOf files.quiet context) (catalogOf files context) := by
  obtain ⟨keyspace, paths⟩ := context
  cases paths with
  | nil => exact followsAction_throw _
  | cons path rest => exact follows_declareFiles files Catalog.empty (path :: rest)

/-- Planning a catalog follows itself. -/
theorem follows_planOf (catalog : Catalog) (keyspace : String) :
    FollowsAction allowed (planOf catalog keyspace : Action (StateM (σ × List Event)) Plan)
      (planOf catalog keyspace : Action (StateM σ) Plan) := by
  unfold planOf
  cases catalog.plan keyspace with
  | ok plan => exact followsAction_pure plan
  | error error => exact followsAction_throw _

/-- Planning a context is followed without a note. -/
theorem follows_planIn (files : Files (StateM σ)) (context : Context) :
    FollowsAction allowed (planIn files.quiet context) (planIn files context) := by
  obtain ⟨keyspace, paths⟩ := context
  cases keyspace with
  | none => exact followsAction_throw _
  | some keyspace =>
    exact (follows_catalogOf files _).bind fun catalog => follows_planOf catalog keyspace

/-- Finding the home of the user is followed without a note. -/
theorem follows_home (host : Host (StateM σ)) :
    FollowsAction allowed (home host.traced) (home host) := by
  refine (followsAction_lift (follows_quietly (host.environment "HOME"))).bind fun value => ?_
  cases value with
  | some path => exact followsAction_pure path
  | none => exact followsAction_throw _

/-- Loading the connection settings is followed without a note. -/
theorem follows_loadConnection (host : Host (StateM σ)) :
    FollowsAction allowed (loadConnection host.traced) (loadConnection host) := by
  refine (follows_home host).bind fun path => ?_
  refine (followsAction_lift (follows_quietly (host.isPresent _))).bind fun present => ?_
  cases present with
  | false => exact followsAction_pure _
  | true =>
    refine (followsAction_attempt (follows_readText host.toFiles _) _).bind fun text => ?_
    cases Connection.ofText? text with
    | some connection => exact followsAction_pure connection
    | none => exact followsAction_throw _

/-- Finding the target of connection settings is followed without a note. -/
theorem follows_targetOf (host : Host (StateM σ)) (connection : Connection) :
    FollowsAction allowed (targetOf host.traced connection) (targetOf host connection) := by
  refine (followsAction_lift (follows_quietly (host.environment _))).bind fun program => ?_
  refine (followsAction_lift (follows_quietly (host.environment _))).bind fun name => ?_
  refine (followsAction_lift (follows_quietly (host.environment _))).bind fun port => ?_
  dsimp only
  cases connection.target ⟨program, name, port⟩ with
  | ok target => exact followsAction_pure target
  | error fault => exact followsAction_throw _

end CommandLine

end CqlSchema
