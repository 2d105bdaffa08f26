import CqlSchema.Proofs.Settings.Keeping
import Mathlib.Data.List.Induction
/-!
# Settings after many runs

Every run of a command changes the settings by what it is given, so after any number of runs they
are a fold over the commands. Of each setting that is the latest value that was given: for a
context, since the last time that it was cleared. The induction is on the runs, whose hosts may
have variables of their own, and for the latest values on the commands from their end.
-/

namespace CqlSchema.CommandLine

open Settings (Context Connection Slot Stored Target portOfText)

/-! ## What commands change -/

namespace Invocation

/-- Commands that only show or change settings, with a valid port. -/
def IsSetting (invocation : Invocation) : Prop :=
  match invocation.command with
  | .setConnection _ _ port => ∀ number ∈ port, number ≤ Settings.maxPort
  | .render _ _ => False
  | .check _ => False
  | .apply _ _ => False
  | _ => True

/-- Context after a command. -/
def contextAfter (context : Context) (invocation : Invocation) : Context :=
  match invocation.command with
  | .setContext files => context.update invocation.keyspace files
  | .clearContext => .empty
  | _ => context

/-- Connection settings after a command. -/
def connectionAfter (connection : Connection) (invocation : Invocation) : Connection :=
  match invocation.command with
  | .setConnection program host port => connection.update program host port
  | _ => connection

/-- Decides whether a command clears the context. -/
def clears (invocation : Invocation) : Bool :=
  invocation.command = .clearContext

/-- Keyspace that a command sets. -/
def keyspace? (invocation : Invocation) : Option String :=
  match invocation.command with
  | .setContext _ => invocation.keyspace
  | _ => none

/-- Files that a command sets; no files set none. -/
def files? (invocation : Invocation) : Option (List String) :=
  match invocation.command with
  | .setContext files => if files.isEmpty then none else some files
  | _ => none

/-- Program that a command sets. -/
def program? (invocation : Invocation) : Option String :=
  match invocation.command with
  | .setConnection program _ _ => program
  | _ => none

/-- Host that a command sets. -/
def host? (invocation : Invocation) : Option String :=
  match invocation.command with
  | .setConnection _ host _ => host
  | _ => none

/-- Port that a command sets. -/
def port? (invocation : Invocation) : Option Nat :=
  match invocation.command with
  | .setConnection _ _ port => port
  | _ => none

end Invocation

/-! ## Latest values -/

/-- Latest value that commands give. -/
def latest {α : Type} (given : Invocation → Option α) (invocations : List Invocation) : Option α :=
  invocations.reverse.findSome? given

/-- Commands since the last one that cleared the context. -/
def sinceClear (invocations : List Invocation) : List Invocation :=
  (invocations.reverse.takeWhile fun invocation => !invocation.clears).reverse

/-- The last command counts first. -/
theorem latest_concat {α : Type} (given : Invocation → Option α) (invocations : List Invocation)
    (last : Invocation) :
    latest given (invocations ++ [last]) = (given last).or (latest given invocations) := by
  rw [latest, List.reverse_concat, List.findSome?_cons]
  cases given last with
  | none => rfl
  | some value => rfl

/-- A command that clears the context leaves none before it. -/
theorem sinceClear_concat (invocations : List Invocation) (last : Invocation) :
    sinceClear (invocations ++ [last]) =
      if last.clears then [] else sinceClear invocations ++ [last] := by
  rw [sinceClear, List.reverse_concat, List.takeWhile_cons]
  cases last.clears with
  | true => rfl
  | false => exact List.reverse_cons

/-- Since the context was cleared, the last command counts first if it does not clear it again. -/
theorem latest_sinceClear_concat {α : Type} (given : Invocation → Option α)
    (invocations : List Invocation) {last : Invocation} (kept : last.clears = false) :
    latest given (sinceClear (invocations ++ [last])) =
      (given last).or (latest given (sinceClear invocations)) := by
  rw [sinceClear_concat, kept]
  exact latest_concat given (sinceClear invocations) last

/-- The context after commands has the latest keyspace and the latest files since it was cleared. -/
theorem foldl_contextAfter (invocations : List Invocation) :
    invocations.foldl Invocation.contextAfter .empty =
      ⟨latest Invocation.keyspace? (sinceClear invocations),
        (latest Invocation.files? (sinceClear invocations)).getD []⟩ := by
  induction invocations using List.reverseRecOn with
  | nil => rfl
  | append_singleton invocations last ih =>
    rw [List.foldl_concat, ih]
    obtain ⟨keyspace, format, command⟩ := last
    cases command with
    | clearContext =>
      rw [sinceClear_concat]
      rfl
    | setContext files =>
      rw [latest_sinceClear_concat _ _ rfl, latest_sinceClear_concat _ _ rfl]
      cases files with
      | nil => rfl
      | cons file rest => rfl
    | _ =>
      rw [latest_sinceClear_concat _ _ rfl, latest_sinceClear_concat _ _ rfl]
      rfl

/-- The connection settings after commands have the latest values, or those from before. -/
theorem foldl_connectionAfter (connection : Connection) (invocations : List Invocation) :
    invocations.foldl Invocation.connectionAfter connection =
      ⟨(latest Invocation.program? invocations).or connection.program,
        (latest Invocation.host? invocations).or connection.host,
        (latest Invocation.port? invocations).or connection.port⟩ := by
  induction invocations using List.reverseRecOn with
  | nil => rfl
  | append_singleton invocations last ih =>
    rw [List.foldl_concat, ih, latest_concat, latest_concat, latest_concat]
    obtain ⟨keyspace, format, command⟩ := last
    cases command with
    | setConnection program host port =>
      show Connection.mk _ _ _ = Connection.mk _ _ _
      rw [Option.or_assoc, Option.or_assoc, Option.or_assoc]
      rfl
    | _ => rfl

/-! ## One run -/

/-- Port that variables set: none, or the one that their text writes. -/
def SetsPort (values : String → Option String) (port : Option Nat) : Prop :=
  match values "CQLKIT_PORT" with
  | none => port = none
  | some text => ∃ number, portOfText text = .ok number ∧ port = some number

/-- Target with the values of variables before settings, and settings before defaults. -/
def targetWith (values : String → Option String) (port : Option Nat) (connection : Connection) :
    Target where
  program := ((values "CQLKIT_CQLSH").or connection.program).getD Target.standard.program
  host := ((values "CQLKIT_HOST").or connection.host).getD Target.standard.host
  port := (port.or connection.port).getD Target.standard.port

/-- Where variables set a port or none, there is a target. -/
theorem targetIn_of_setsPort {values : String → Option String} {port : Option Nat}
    (sets : SetsPort values port) (connection : Connection) :
    targetIn values connection = .ok (targetWith values port connection) := by
  rw [targetIn, Connection.target, overridesIn]
  unfold SetsPort at sets
  split at sets
  · rename_i unset
    rw [sets, targetWith]
    dsimp only
    rw [unset]
    rfl
  · rename_i text set
    obtain ⟨number, read, rfl⟩ := sets
    rw [targetWith]
    dsimp only
    rw [set]
    dsimp only
    rw [read]
    rfl

section Run

variable {σ : Type} {shows : σ → Stored → Prop} {home : String}

/-- A command changes the settings by what it is given, and succeeds where the port is sound. -/
theorem Keeps.run {host : Host (StateM σ)} {values : String → Option String}
    (keeps : Keeps shows home host values) {invocation : Invocation}
    (setting : invocation.IsSetting) {stored : Stored} {connection : Connection}
    (loads : stored.connection? = some connection) :
    ∃ outcome after, LeavesAction shows (invocation.run host) stored outcome after ∧
      after.context = invocation.contextAfter stored.context ∧
      after.connection? = some (invocation.connectionAfter connection) ∧
      ∀ port, SetsPort values port → outcome = .ok () := by
  have loaded := keeps.loadConnection loads
  have shownTarget : ∀ (settings : Connection) (port : Option Nat), SetsPort values port →
      (targetIn values settings).map (fun _ => ()) = .ok () := by
    intro settings port sets
    rw [targetIn_of_setsPort sets]
    rfl
  obtain ⟨keyspace, format, command⟩ := invocation
  cases command with
  | setContext files =>
    refine ⟨_, _, loaded.bind (keeps.setContext keyspace files), ?_, ?_, fun _ _ => rfl⟩
    · rw [Stored.context_put]
      rfl
    · rw [Stored.connection?_put_context]
      exact loads
  | clearContext =>
    refine ⟨_, _, loaded.bind keeps.clearContext, ?_, ?_, fun _ _ => rfl⟩
    · rw [Stored.context_erase]
      rfl
    · rw [Stored.connection?_erase_context]
      exact loads
  | setConnection program name port =>
    have valid := (Stored.hasValidPort_of_connection? loads).update setting program name
    refine ⟨_, _, loaded.bind (keeps.setConnection (connection.update program name port)), ?_, ?_,
      shownTarget _⟩
    · rw [Stored.context_put_connection]
      rfl
    · rw [Stored.connection?_put stored valid]
      rfl
  | showContext =>
    exact ⟨_, _, loaded.bind keeps.showContext, rfl, loads, fun _ _ => rfl⟩
  | showConnection =>
    exact ⟨_, _, loaded.bind (keeps.showConnection connection), rfl, loads, shownTarget _⟩
  | render files out => exact setting.elim
  | check files => exact setting.elim
  | apply files isDry => exact setting.elim

/-! ## Many runs -/

/-- A command to run, on a host that keeps settings. -/
structure Session (shows : σ → Stored → Prop) (home : String) where
  host : Host (StateM σ)
  values : String → Option String
  invocation : Invocation
  /-- The host keeps settings. -/
  keeps : Keeps shows home host values

/-- Runs commands one after the other, each on its own host. Returns how each of them ended. -/
def runEach : List (Session shows home) → σ → List (Except Failure Unit) × σ
  | [], state => ([], state)
  | session :: rest, state =>
    let (outcome, middle) := runFrom (session.invocation.run session.host) state
    let (outcomes, last) := runEach rest middle
    (outcome :: outcomes, last)

/-- After many runs the settings are a fold over the commands. -/
theorem exists_stored_of_runEach {sessions : List (Session shows home)}
    (setting : ∀ session ∈ sessions, session.invocation.IsSetting) {state : σ} {stored : Stored}
    (shown : shows state stored) {connection : Connection}
    (loads : stored.connection? = some connection) :
    ∃ after, shows (runEach sessions state).2 after ∧
      after.context =
        (sessions.map Session.invocation).foldl Invocation.contextAfter stored.context ∧
      after.connection? =
        some ((sessions.map Session.invocation).foldl Invocation.connectionAfter connection) ∧
      ((∀ session ∈ sessions, ∃ port, SetsPort session.values port) →
        ∀ outcome ∈ (runEach sessions state).1, outcome = .ok ()) := by
  induction sessions generalizing state stored connection with
  | nil => exact ⟨stored, shown, rfl, loads, fun _ => List.forall_mem_nil _⟩
  | cons session rest ih =>
    obtain ⟨own, others⟩ := List.forall_mem_cons.1 setting
    obtain ⟨outcome, between, leaves, context, settings, succeeds⟩ := session.keeps.run own loads
    obtain ⟨middle, ran, shownMiddle⟩ := leaves state shown
    obtain ⟨after, shownLast, lastContext, lastSettings, allSucceed⟩ :=
      ih others shownMiddle settings
    have shape : runEach (session :: rest) state =
        (outcome :: (runEach rest middle).1, (runEach rest middle).2) := by
      have ranFrom : runFrom (session.invocation.run session.host) state = (outcome, middle) := ran
      rw [runEach, ranFrom]
    rw [shape]
    refine ⟨after, shownLast, ?_, lastSettings, fun sound => ?_⟩
    · rw [lastContext, context]
      rfl
    · obtain ⟨⟨port, sets⟩, otherPorts⟩ := List.forall_mem_cons.1 sound
      exact List.forall_mem_cons.2 ⟨succeeds port sets, allSucceed otherPorts⟩

/-- After any runs that set, clear or show settings, all of which succeed where their ports are
sound: in a directory that had no context, a command gets the keyspace and the files that it is
given, else the latest since the context was cleared; and the target has the values of the
variables, else the latest values, else those from before, else the defaults. Settings are read
from their texts exactly as they were. -/
theorem settings_after_runs {sessions : List (Session shows home)}
    (setting : ∀ session ∈ sessions, session.invocation.IsSetting) {state : σ} {stored : Stored}
    (shown : shows state stored) {connection : Connection}
    (loads : stored.connection? = some connection) :
    let invocations := sessions.map Session.invocation
    let after := (runEach sessions state).2
    ((∀ session ∈ sessions, ∃ port, SetsPort session.values port) →
      ∀ outcome ∈ (runEach sessions state).1, outcome = .ok ()) ∧
    (stored .context = none → ∀ host values, Keeps shows home host values →
      ∀ keyspace files, ∃ last, (contextFor host.toFiles keyspace files).run after =
        (⟨keyspace.or (latest Invocation.keyspace? (sinceClear invocations)),
          if files.isEmpty then (latest Invocation.files? (sinceClear invocations)).getD []
          else files⟩, last)) ∧
    (∀ host values, Keeps shows home host values → ∀ port, SetsPort values port →
      ∃ last, runFrom (loadConnection host >>= targetOf host) after =
        (.ok (targetWith values port
          ⟨(latest Invocation.program? invocations).or connection.program,
            (latest Invocation.host? invocations).or connection.host,
            (latest Invocation.port? invocations).or connection.port⟩), last)) ∧
    (∀ context : Context, Context.ofText? context.text = some context) ∧
    ∀ settings : Connection, settings.HasValidPort →
      Connection.ofText? settings.text = some settings := by
  intro invocations after
  obtain ⟨left, shownAfter, context, settings, succeed⟩ :=
    exists_stored_of_runEach setting shown loads
  refine ⟨succeed, fun absent host values keeps keyspace files => ?_,
    fun host values keeps port sets => ?_, Context.ofText?_text, fun _ => Connection.ofText?_text⟩
  · have start : stored.context = .empty := by
      rw [Stored.context, absent]
      rfl
    obtain ⟨last, found, -⟩ := keeps.contextFor keyspace files after shownAfter
    rw [context, start, foldl_contextAfter] at found
    exact ⟨last, found⟩
  · rw [foldl_connectionAfter] at settings
    have loaded := (keeps.loadConnection settings).bind (keeps.targetOf _)
    rw [targetIn_of_setsPort sets] at loaded
    obtain ⟨last, found, -⟩ := loaded after shownAfter
    exact ⟨last, found⟩

end Run

/-- Contexts with a clearing between them, and two settings of a connection, on hosts without files:
of the context what was set before the clearing is forgotten, and of the connection nothing is. A
variable counts before a setting. -/
theorem settings_after_clearing :
    let values (name : String) := [("HOME", "/u"), ("CQLKIT_PORT", "+9")].lookup name
    let others (name : String) := [("HOME", "/u"), ("CQLKIT_HOST", "far")].lookup name
    let session (keyspace : Option String) (command : Command) : Session (FlatShows "/u") "/u" :=
      ⟨flatHost values, values, ⟨keyspace, .text, command⟩, keeps_flatHost rfl⟩
    let sessions := [session (some "old") (.setContext ["a.yaml"]),
      session none (.setConnection (some "cql") (some "near") (some 9142)),
      session none .clearContext, session none (.setContext ["b \x22\n.yaml", "ü.yaml"]),
      session (some "") (.setContext []), session none (.setConnection none (some "here") none)]
    let after := (runEach sessions fun _ => none).2
    (∀ outcome ∈ (runEach sessions fun _ => none).1, outcome = .ok ()) ∧
      (∃ last, (contextFor (flatHost others).toFiles none []).run after =
        (⟨some "", ["b \x22\n.yaml", "ü.yaml"]⟩, last)) ∧
      ∃ last, runFrom (loadConnection (flatHost others) >>= targetOf (flatHost others)) after =
        (.ok ⟨"cql", "far", 9142⟩, last) := by
  intro values others session sessions after
  have setting : ∀ each ∈ sessions, each.invocation.IsSetting := by
    simp [sessions, session, Invocation.IsSetting, Settings.maxPort]
  have sound : ∀ each ∈ sessions, ∃ port, SetsPort each.values port := by
    intro each member
    have same : each.values = values := by
      revert each
      simp [sessions, session]
    refine ⟨some 9, ?_⟩
    rw [SetsPort, same]
    exact ⟨9, by decide, rfl⟩
  have shown : FlatShows "/u" (fun _ => none) fun _ => none := fun slot => rfl
  obtain ⟨succeed, context, target, -⟩ := settings_after_runs setting shown rfl
  exact ⟨succeed sound, context rfl _ _ (keeps_flatHost rfl) none [],
    target _ _ (keeps_flatHost rfl) none rfl⟩

end CqlSchema.CommandLine
