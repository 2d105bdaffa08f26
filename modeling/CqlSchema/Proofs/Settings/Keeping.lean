import CqlSchema.Proofs.CommandLine.Planning
import CqlSchema.Proofs.Settings.ReadBack
/-!
# Commands on hosts that keep settings

Settings are kept in two files, and of the state of a host only the texts of these files count.
`Keeps` says what a host does with them where every operation succeeds. Each command then has one
outcome and leaves one pair of texts: what it does is followed step by step through its operations,
by `Leaves` and its rule for steps in a row.
-/

namespace CqlSchema

namespace Settings

/-- Files that settings are kept in. -/
inductive Slot where
  | context
  | connection
  deriving Repr, DecidableEq

/-- Directory of a file of settings. -/
def Slot.directory (home : String) : Slot → String
  | .context => Context.directory
  | .connection => Connection.directory home

/-- Path of a file of settings. -/
def Slot.path (home : String) : Slot → String
  | .context => Context.path
  | .connection => Connection.path home

/-- Texts of the files of settings, as far as there are such files. -/
abbrev Stored := Slot → Option String

namespace Stored

/-- Context that a stored text describes; one that is not there or not understood is empty. -/
def context (stored : Stored) : Context :=
  ((stored .context).bind Context.ofText?).getD .empty

/-- Connection settings that a stored text describes, if it is understood. -/
def connection? (stored : Stored) : Option Connection :=
  match stored .connection with
  | none => some .empty
  | some text => Connection.ofText? text

/-- Stores a text in a file. -/
def put (stored : Stored) (slot : Slot) (text : String) : Stored :=
  Function.update stored slot (some text)

/-- Removes a file. -/
def erase (stored : Stored) (slot : Slot) : Stored :=
  Function.update stored slot none

variable (stored : Stored)

/-- A stored context is read as it was. -/
@[simp]
theorem context_put (context : Context) : (stored.put .context context.text).context = context := by
  rw [Stored.context, put, Function.update_self]
  show (Context.ofText? context.text).getD .empty = context
  rw [Context.ofText?_text, Option.getD_some]

/-- Without a file there is no context. -/
@[simp]
theorem context_erase : (stored.erase .context).context = .empty := by
  rw [Stored.context, erase, Function.update_self]
  rfl

/-- Connection settings with a valid port are read as they were stored. -/
theorem connection?_put {connection : Connection} (valid : connection.HasValidPort) :
    (stored.put .connection connection.text).connection? = some connection := by
  rw [connection?, put, Function.update_self]
  exact Connection.ofText?_text valid

/-- A context leaves the connection settings as they were. -/
@[simp]
theorem connection?_put_context (text : String) :
    (stored.put .context text).connection? = stored.connection? := by
  rw [connection?, put, Function.update_of_ne (by decide)]
  rfl

/-- Removing a context leaves the connection settings as they were. -/
@[simp]
theorem connection?_erase_context :
    (stored.erase .context).connection? = stored.connection? := by
  rw [connection?, erase, Function.update_of_ne (by decide)]
  rfl

/-- Connection settings leave the context as it was. -/
@[simp]
theorem context_put_connection (text : String) :
    (stored.put .connection text).context = stored.context := by
  rw [Stored.context, put, Function.update_of_ne (by decide)]
  rfl

/-- Connection settings that are read have a valid port. -/
theorem hasValidPort_of_connection? {stored : Stored} {connection : Connection}
    (loads : stored.connection? = some connection) : connection.HasValidPort := by
  unfold connection? at loads
  split at loads
  · cases loads
    exact fun _ absent => nomatch absent
  · exact Connection.hasValidPort_of_ofText? loads

end Stored

end Settings

namespace CommandLine

open Settings (Context Connection Overrides Slot Stored)

variable {σ α β : Type} {shows : σ → Stored → Prop}

/-! ## What operations leave -/

/-- An operation answers with a value where the host shows stored texts, and leaves others. -/
def Leaves (shows : σ → Stored → Prop) (operation : StateM σ α) (before : Stored) (value : α)
    (after : Stored) : Prop :=
  ∀ state, shows state before →
    ∃ final, operation.run state = (value, final) ∧ shows final after

/-- An action has an outcome where the host shows stored texts, and leaves others. -/
def LeavesAction (shows : σ → Stored → Prop) (action : Action (StateM σ) α) (before : Stored)
    (outcome : Except Failure α) (after : Stored) : Prop :=
  Leaves shows action.run before outcome after

variable {before middle after stored : Stored}

/-- A result leaves everything as it was. -/
theorem leaves_pure (value : α) : Leaves shows (pure value) stored value stored :=
  fun state shown => ⟨state, rfl, shown⟩

/-- An outcome leaves everything as it was. -/
theorem leavesAction_outcome {action : Action (StateM σ) α} {outcome : Except Failure α}
    (shape : action.run = pure outcome) : LeavesAction shows action stored outcome stored := by
  rw [LeavesAction, shape]
  exact leaves_pure outcome

/-- The second of two operations in a row goes on from what the first one leaves. -/
theorem Leaves.bind {first : StateM σ α} {second : α → StateM σ β} {value : α} {result : β}
    (head : Leaves shows first before value middle)
    (tail : Leaves shows (second value) middle result after) :
    Leaves shows (first >>= second) before result after := by
  intro state shown
  obtain ⟨between, ran, shownBetween⟩ := head state shown
  obtain ⟨final, went, shownFinally⟩ := tail between shownBetween
  refine ⟨final, ?_, shownFinally⟩
  rw [StateT.run_bind, ran]
  exact went

/-- The second of two actions in a row goes on from what the first one leaves. -/
theorem LeavesAction.bind {first : Action (StateM σ) α} {second : α → Action (StateM σ) β}
    {value : α} {outcome : Except Failure β}
    (head : LeavesAction shows first before (.ok value) middle)
    (tail : LeavesAction shows (second value) middle outcome after) :
    LeavesAction shows (first >>= second) before outcome after := by
  rw [LeavesAction, ExceptT.run_bind]
  exact Leaves.bind head tail

/-- A failure of the first of two actions in a row is the failure of both. -/
theorem LeavesAction.bind_error {first : Action (StateM σ) α} {second : α → Action (StateM σ) β}
    {failure : Failure} (head : LeavesAction shows first before (.error failure) after) :
    LeavesAction shows (first >>= second) before (.error failure) after := by
  rw [LeavesAction, ExceptT.run_bind]
  exact Leaves.bind head (leaves_pure _)

/-- An operation of the host leaves the same as an action. -/
theorem leavesAction_lift {operation : StateM σ α} {value : α}
    (leaves : Leaves shows operation before value after) :
    LeavesAction shows (ExceptT.lift operation) before (.ok value) after := by
  intro state shown
  obtain ⟨final, ran, shownFinally⟩ := leaves state shown
  refine ⟨final, ?_, shownFinally⟩
  show runFrom (ExceptT.lift operation) state = _
  rw [runFrom_lift, ran]

/-- An operation of the host that succeeds leaves the same as an attempt. -/
theorem leavesAction_attempt {wrap : Host.Fault → Failure}
    {operation : StateM σ (Except Host.Fault α)} {value : α}
    (leaves : Leaves shows operation before (.ok value) after) :
    LeavesAction shows (attempt wrap operation) before (.ok value) after :=
  (leavesAction_lift leaves).bind (leavesAction_outcome rfl)

/-! ## Hosts that keep settings -/

/-- Hosts with the given variables whose operations on the files of settings all succeed. -/
structure Keeps (shows : σ → Stored → Prop) (home : String) (host : Host (StateM σ))
    (values : String → Option String) : Prop where
  /-- The home of the user is known. -/
  home_eq : values "HOME" = some home
  /-- Variables do not change. -/
  environment : ∀ name stored, Leaves shows (host.environment name) stored (values name) stored
  /-- Printing does not touch the files. -/
  print : ∀ text stored, Leaves shows (host.print text) stored () stored
  /-- A file is present when it has a text. -/
  isPresent : ∀ slot stored,
    Leaves shows (host.isPresent (slot.path home)) stored (stored slot).isSome stored
  /-- A file is read as the text that it has. -/
  read : ∀ slot stored text, stored slot = some text →
    Leaves shows (host.read (slot.path home)) stored (.ok text.toUTF8) stored
  /-- A file can be written once its directory has been created, and then it has that text. -/
  write : ∀ slot stored text state, shows state stored → ∃ ready final,
    (host.createDirectories (slot.directory home)).run state = (.ok (), ready) ∧
      (host.write (slot.path home) text.toUTF8).run ready = (.ok (), final) ∧
      shows final (stored.put slot text)
  /-- A file that is there can be removed. -/
  remove : ∀ slot stored, (stored slot).isSome = true →
    Leaves shows (host.remove (slot.path home)) stored (.ok ()) (stored.erase slot)

/-- Values of the variables that override settings. -/
def overridesIn (values : String → Option String) : Overrides :=
  ⟨values "CQLKIT_CQLSH", values "CQLKIT_HOST", values "CQLKIT_PORT"⟩

/-- Target that variables and connection settings give, or the failure of a port that is none. -/
def targetIn (values : String → Option String) (connection : Connection) :
    Except Failure Settings.Target :=
  (connection.target (overridesIn values)).mapError fun (text, fault) => .port text fault

namespace Keeps

variable {home : String} {host : Host (StateM σ)} {values : String → Option String}
  (keeps : Keeps shows home host values)

include keeps

/-- Printing lines does not touch the files. -/
theorem printLines (lines : List String) :
    LeavesAction shows (printLines host lines) stored (.ok ()) stored :=
  leavesAction_lift (keeps.print _ stored)

/-- A file is read as the text that it has. -/
theorem readText {slot : Slot} {text : String} (written : stored slot = some text) :
    Leaves shows (host.toFiles.readText (slot.path home)) stored (.ok text) stored := by
  intro state shown
  obtain ⟨final, ran, shownFinally⟩ := keeps.read slot stored text written state shown
  exact ⟨final, run_readText ran, shownFinally⟩

/-- Creating the directory of a file and writing the file stores its text, for what comes next. -/
theorem save (slot : Slot) {text : String} {next : Action (StateM σ) α}
    {outcome : Except Failure α}
    (tail : LeavesAction shows next (stored.put slot text) outcome after) :
    LeavesAction shows
      (do attempt .host (host.createDirectories (slot.directory home))
          attempt .host (host.toFiles.writeText (slot.path home) text)
          next)
      stored outcome after := by
  intro state shown
  obtain ⟨ready, final, created, written, shownFinally⟩ := keeps.write slot stored text state shown
  obtain ⟨last, ran, shownLast⟩ := tail final shownFinally
  have wrote : runFrom (attempt .host (host.toFiles.writeText (slot.path home) text)) ready =
      (.ok (), final) := runFrom_attempt_eq_ok.2 written
  refine ⟨last, ?_, shownLast⟩
  show runFrom _ state = _
  rw [runFrom_bind, runFrom_attempt_eq_ok.2 created]
  dsimp only
  rw [runFrom_bind, wrote]
  exact ran

/-! ## Contexts -/

/-- The context that is loaded is the stored one. -/
theorem loadContext :
    Leaves shows (loadContext host.toFiles) stored stored.context stored := by
  refine (keeps.isPresent .context stored).bind ?_
  cases held : stored .context with
  | none =>
    rw [Stored.context, held]
    exact leaves_pure _
  | some text =>
    refine (keeps.readText held).bind ?_
    rw [Stored.context, held]
    exact leaves_pure _

/-- The context of a command has what the command is given before what is stored. -/
theorem contextFor (keyspace : Option String) (files : List String) :
    Leaves shows (contextFor host.toFiles keyspace files) stored
      (stored.context.update keyspace files) stored :=
  keeps.loadContext.bind (leaves_pure _)

/-- Showing the context touches no file. -/
theorem showContext : LeavesAction shows (showContext host) stored (.ok ()) stored :=
  (leavesAction_lift keeps.loadContext).bind (keeps.printLines _)

/-- Setting the context stores it with what is given. -/
theorem setContext (keyspace : Option String) (files : List String) :
    LeavesAction shows (setContext host keyspace files) stored (.ok ())
      (stored.put .context (stored.context.update keyspace files).text) := by
  refine (leavesAction_lift (keeps.contextFor keyspace files)).bind ?_
  exact keeps.save .context ((keeps.printLines _).bind keeps.showContext)

/-- Clearing the context removes its file. -/
theorem clearContext :
    LeavesAction shows (clearContext host) stored (.ok ()) (stored.erase .context) := by
  refine (leavesAction_lift (keeps.isPresent .context stored)).bind ?_
  cases held : stored .context with
  | none =>
    have same : stored.erase .context = stored := by
      rw [Stored.erase, ← held, Function.update_eq_self]
    rw [same]
    exact keeps.printLines _
  | some text =>
    have present : (stored .context).isSome = true := by rw [held]; rfl
    exact (leavesAction_attempt (keeps.remove .context stored present)).bind (keeps.printLines _)

/-! ## Connection settings -/

/-- The home of the user is found. -/
theorem findHome : LeavesAction shows (CommandLine.home host) stored (.ok home) stored := by
  refine (leavesAction_lift (keeps.environment "HOME" stored)).bind ?_
  rw [keeps.home_eq]
  exact leavesAction_outcome rfl

/-- The connection settings that are loaded are the stored ones. -/
theorem loadConnection {connection : Connection} (loads : stored.connection? = some connection) :
    LeavesAction shows (loadConnection host) stored (.ok connection) stored := by
  refine keeps.findHome.bind ((leavesAction_lift (keeps.isPresent .connection stored)).bind ?_)
  cases held : stored .connection with
  | none =>
    rw [Stored.connection?, held] at loads
    cases loads
    exact leavesAction_outcome rfl
  | some text =>
    rw [Stored.connection?, held] at loads
    refine (leavesAction_attempt (keeps.readText held)).bind ?_
    dsimp only at loads ⊢
    rw [loads]
    exact leavesAction_outcome rfl

/-- The target of connection settings is the one that they give with the variables. -/
theorem targetOf (connection : Connection) :
    LeavesAction shows (targetOf host connection) stored (targetIn values connection) stored := by
  refine (leavesAction_lift (keeps.environment "CQLKIT_CQLSH" stored)).bind ?_
  refine (leavesAction_lift (keeps.environment "CQLKIT_HOST" stored)).bind ?_
  refine (leavesAction_lift (keeps.environment "CQLKIT_PORT" stored)).bind ?_
  refine leavesAction_outcome ?_
  rw [targetIn, overridesIn]
  cases found : connection.target
      ⟨values "CQLKIT_CQLSH", values "CQLKIT_HOST", values "CQLKIT_PORT"⟩ with
  | ok target =>
    simp only [found]
    rfl
  | error refusal =>
    simp only [found]
    rfl

/-- Showing connection settings touches no file. -/
theorem showConnection (connection : Connection) :
    LeavesAction shows (showConnection host connection) stored
      ((targetIn values connection).map fun _ => ()) stored := by
  have aimed : LeavesAction shows (CommandLine.targetOf host connection) stored
      (targetIn values connection) stored := keeps.targetOf connection
  generalize targetIn values connection = outcome at aimed ⊢
  cases outcome with
  | ok target => exact aimed.bind (keeps.printLines _)
  | error failure => exact aimed.bind_error

/-- Connection settings are stored, and then their target is shown. -/
theorem setConnection (connection : Connection) :
    LeavesAction shows (setConnection host connection) stored
      ((targetIn values connection).map fun _ => ())
      (stored.put .connection connection.text) := by
  refine keeps.findHome.bind ?_
  exact keeps.save .connection ((keeps.printLines _).bind (keeps.showConnection _))

end Keeps

/-! ## A host of texts by path -/

/-- Host whose files have paths and contents, and nothing else. -/
def flatHost (values : String → Option String) : Host (StateM (String → Option ByteArray)) where
  read path files := ((files path).elim (.error .missing) .ok, files)
  write path content files := (.ok (), Function.update files path (some content))
  append path content files :=
    (.ok (), Function.update files path (some ((files path).getD .empty ++ content)))
  createDirectories _ := return .ok ()
  remove path files :=
    ((files path).elim (.error .missing) fun _ => .ok (), Function.update files path none)
  isPresent path files := ((files path).isSome, files)
  isFile path files := ((files path).isSome, files)
  program _ := return .error .denied
  environment name := return values name
  print _ := return ()
  start _ _ := return .error .missing

/-- Files at the paths of settings have the bytes of the stored texts. -/
def FlatShows (home : String) (files : String → Option ByteArray) (stored : Stored) : Prop :=
  ∀ slot : Slot, files (slot.path home) = (stored slot).map String.toUTF8

/-- The two files of settings have different paths. -/
theorem path_injective (home : String) : Function.Injective (Slot.path home) := by
  have different : Context.path ≠ Connection.path home := by
    intro same
    -- The paths differ before their last five characters.
    have letters := congrArg (fun path : String => path.toList.reverse.take 6) same
    have ending : (Connection.path home).toList.reverse.take 6 =
        "/.cqlkit/config.json".toList.reverse.take 6 := by
      rw [Connection.path, String.toList_append, List.reverse_append,
        List.take_append_of_le_length (by decide)]
    rw [ending] at letters
    revert letters
    decide
  intro first second same
  cases first <;> cases second
  · rfl
  · exact absurd same different
  · exact absurd same.symm different
  · rfl

/-- Changing a file of settings changes its stored text. -/
theorem FlatShows.update {home : String} {files : String → Option ByteArray} {stored : Stored}
    (shown : FlatShows home files stored) (slot : Slot) (text : Option String) :
    FlatShows home (Function.update files (slot.path home) (text.map String.toUTF8))
      (Function.update stored slot text) := by
  intro other
  by_cases same : other = slot
  · rw [same, Function.update_self, Function.update_self]
  · rw [Function.update_of_ne same, Function.update_of_ne ((path_injective home).ne same)]
    exact shown other

/-- A host of texts by path keeps settings where the home is known. -/
theorem keeps_flatHost {home : String} {values : String → Option String}
    (homeSet : values "HOME" = some home) :
    Keeps (FlatShows home) home (flatHost values) values where
  home_eq := homeSet
  environment name stored files shown := ⟨files, rfl, shown⟩
  print text stored files shown := ⟨files, rfl, shown⟩
  isPresent slot stored files shown := by
    refine ⟨files, ?_, shown⟩
    show ((files (slot.path home)).isSome, files) = _
    rw [shown slot, Option.isSome_map]
  read slot stored text held files shown := by
    refine ⟨files, ?_, shown⟩
    show ((files (slot.path home)).elim _ _, files) = _
    rw [shown slot, held]
    rfl
  write slot stored text files shown := ⟨files, _, rfl, rfl, shown.update slot (some text)⟩
  remove slot stored held files shown := by
    obtain ⟨text, found⟩ := Option.isSome_iff_exists.1 held
    refine ⟨_, ?_, shown.update slot none⟩
    show ((files (slot.path home)).elim _ _, _) = _
    rw [shown slot, found]
    rfl

end CommandLine

end CqlSchema
