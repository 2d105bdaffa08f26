import CqlSchema.Proofs.CommandLine.Trace
/-!
# What runs may note

Every command follows itself on a traced host, so a trace tells of the command what it does on the
host itself. Commands print, and only a run that applies a plan starts programs.
-/

namespace CqlSchema.CommandLine

open Settings (Context Connection Target)

variable {σ : Type} {allowed : Event → Prop}

section Printing

variable (printed : ∀ text, allowed (.printed text)) (host : Host (StateM σ))
include printed

/-- Printing a text follows itself. -/
theorem follows_print (text : String) :
    Follows allowed (host.traced.print text) (host.print text) :=
  follows_noting (fun _ => printed text) (host.print text)

/-- Printing lines follows itself. -/
theorem follows_printLines (lines : List String) :
    FollowsAction allowed (printLines host.traced lines) (printLines host lines) :=
  followsAction_lift (follows_print printed host _)

/-! ## Plans -/

/-- Rendering follows itself. -/
theorem follows_render (context : Context) (out : Option String) (format : Format) :
    FollowsAction allowed (render host.traced context out format)
      (render host context out format) := by
  refine (follows_planIn host.toFiles context).bind fun plan => ?_
  cases out with
  | none => exact followsAction_lift (follows_print printed host _)
  | some path =>
    refine (followsAction_attempt (follows_quietly (host.toFiles.writeText path _)) _).bind ?_
    exact fun _ => follows_printLines printed host _

/-- A check follows itself. -/
theorem follows_check (context : Context) (format : Format) :
    FollowsAction allowed (check host.traced context format) (check host context format) := by
  refine (follows_catalogOf host.toFiles context).bind fun catalog => ?_
  refine (follows_planOf catalog _).bind fun plan => ?_
  cases format with
  | text => exact follows_printLines printed host _
  | json => exact follows_printLines printed host _

/-! ## Settings -/

/-- Showing the context follows itself. -/
theorem follows_showContext : FollowsAction allowed (showContext host.traced) (showContext host) :=
  (followsAction_lift (follows_loadContext host.toFiles)).bind fun _ =>
    follows_printLines printed host _

/-- Setting the context follows itself. -/
theorem follows_setContext (keyspace : Option String) (files : List String) :
    FollowsAction allowed (setContext host.traced keyspace files)
      (setContext host keyspace files) := by
  refine (followsAction_lift (follows_contextFor host.toFiles keyspace files)).bind fun _ => ?_
  refine (followsAction_attempt (follows_quietly (host.createDirectories _)) _).bind fun _ => ?_
  refine (followsAction_attempt (follows_quietly (host.toFiles.writeText _ _)) _).bind fun _ => ?_
  exact (follows_printLines printed host _).bind fun _ => follows_showContext printed host

/-- Forgetting the context follows itself. -/
theorem follows_clearContext :
    FollowsAction allowed (clearContext host.traced) (clearContext host) := by
  refine (followsAction_lift (follows_quietly (host.isPresent _))).bind fun present => ?_
  cases present with
  | false => exact follows_printLines printed host _
  | true =>
    refine (followsAction_attempt (follows_quietly (host.remove _)) _).bind fun _ => ?_
    exact follows_printLines printed host _

/-- Showing a target follows itself. -/
theorem follows_showConnection (connection : Connection) :
    FollowsAction allowed (showConnection host.traced connection)
      (showConnection host connection) :=
  (follows_targetOf host connection).bind fun _ => follows_printLines printed host _

/-- Keeping connection settings follows itself. -/
theorem follows_setConnection (connection : Connection) :
    FollowsAction allowed (setConnection host.traced connection)
      (setConnection host connection) := by
  refine (follows_home host).bind fun place => ?_
  refine (followsAction_attempt (follows_quietly (host.createDirectories _)) _).bind fun _ => ?_
  refine (followsAction_attempt (follows_quietly (host.toFiles.writeText _ _)) _).bind fun _ => ?_
  exact (follows_printLines printed host _).bind fun _ => follows_showConnection printed host _

end Printing

/-! ## Applying -/

section Starting

variable (started : ∀ call, allowed (.started call)) (host : Host (StateM σ)) (target : Target)
include started

/-- Handing a statement over follows itself. -/
theorem follows_query (statement : String) :
    Follows allowed (query host.traced target statement) (query host target statement) := by
  refine (follows_noting (fun _ => started _) (host.start _ _)).bind fun answer => ?_
  cases answer with
  | error fault => exact follows_pure _
  | ok execution =>
    by_cases clean : execution.ending = .status 0
    · simp only [clean]
      exact follows_pure _
    · simp only [clean]
      exact follows_pure _

/-- Handing statements over follows itself. -/
theorem follows_executeAll (index : Nat) (statements : List String) :
    Follows allowed (executeAll (query host.traced target) index statements)
      (executeAll (query host target) index statements) := by
  induction statements generalizing index with
  | nil => exact follows_pure _
  | cons statement rest ih =>
    refine (follows_query started host target statement).bind fun answer => ?_
    cases answer with
    | ok nothing => exact ih (index + 1)
    | error fault => exact follows_pure _

end Starting

/-- A dry run prints, and a real run starts programs as well. -/
theorem follows_apply (printed : ∀ text, allowed (.printed text)) {isDry : Bool}
    (started : isDry = false → ∀ call, allowed (.started call)) (host : Host (StateM σ))
    (connection : Connection) (context : Context) :
    FollowsAction allowed (apply host.traced connection context isDry)
      (apply host connection context isDry) := by
  refine (follows_planIn host.toFiles context).bind fun plan => ?_
  cases isDry with
  | true => exact follows_printLines printed host _
  | false =>
    refine (follows_targetOf host connection).bind fun target => ?_
    refine (follows_printLines printed host _).bind fun _ => ?_
    have executed := follows_executeAll (started rfl) host target 0 plan.statements
    refine (followsAction_lift executed).bind fun outcome => ?_
    cases outcome with
    | ok count => exact follows_printLines printed host _
    | error error => exact followsAction_throw _

/-! ## Commands -/

/-- A command on a traced host does what it does on the host itself. It notes only what it prints,
and the programs that it starts when it applies a plan. -/
theorem follows_run (printed : ∀ text, allowed (.printed text)) (invocation : Invocation)
    (started : ∀ files, invocation.command = .apply files false →
      ∀ call, allowed (.started call)) (host : Host (StateM σ)) :
    FollowsAction allowed (invocation.run host.traced) (invocation.run host) := by
  obtain ⟨keyspace, format, command⟩ := invocation
  refine (follows_loadConnection host).bind fun connection => ?_
  have context (files : List String) : FollowsAction allowed
      (ExceptT.lift (contextFor host.toFiles.quiet keyspace files))
      (ExceptT.lift (contextFor host.toFiles keyspace files)) :=
    followsAction_lift (follows_contextFor host.toFiles keyspace files)
  cases command with
  | setContext files => exact follows_setContext printed host keyspace files
  | showContext => exact follows_showContext printed host
  | clearContext => exact follows_clearContext printed host
  | setConnection program name port => exact follows_setConnection printed host _
  | showConnection => exact follows_showConnection printed host connection
  | render files out =>
    exact (context files).bind fun given => follows_render printed host given out format
  | check files => exact (context files).bind fun given => follows_check printed host given format
  | apply files isDry =>
    refine (context files).bind fun given => follows_apply printed (fun isReal => ?_) host _ given
    exact started files (by rw [isReal])

end CqlSchema.CommandLine
