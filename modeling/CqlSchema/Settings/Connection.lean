import CqlSchema.Json.Record
import CqlSchema.Settings.Port
/-!
# Connection

The connection settings of a user name the program that executes statements and the host and port
that it is given. Environment variables override them, and defaults stand behind them.
-/

namespace CqlSchema.Settings

/-- Settings of a user. -/
structure Connection where
  program : Option String
  host : Option String
  port : Option Nat
  deriving Repr, DecidableEq

/-- Values of the environment variables that override settings. -/
structure Overrides where
  program : Option String
  host : Option String
  port : Option String
  deriving Repr, DecidableEq

/-- Program, host and port that statements are executed with. -/
structure Target where
  program : String
  host : String
  port : Nat
  deriving Repr, DecidableEq

namespace Target

/-- Target where nothing is set. -/
def standard : Target := ⟨"cqlsh", "127.0.0.1", 9042⟩

/-- Lines that show a target. -/
def lines (target : Target) : List String :=
  ["Effective cqlsh target (~/.cqlkit/config.json, CQLKIT_* env):",
    "  cqlsh: " ++ target.program, "  host:  " ++ target.host, s!"  port:  {target.port}"]

end Target

/-- Names of the environment variables that override settings. -/
def Overrides.names : List String := ["CQLKIT_CQLSH", "CQLKIT_HOST", "CQLKIT_PORT"]

namespace Connection

/-- Settings in which nothing is set. -/
def empty : Connection := ⟨none, none, none⟩

/-- Directory of the settings in the home of a user. -/
def directory (home : String) : String := home ++ "/.cqlkit"

/-- Path of the settings in the home of a user. -/
def path (home : String) : String := home ++ "/.cqlkit/config.json"

/-- Sets what is given. -/
def update (connection : Connection) (program host : Option String) (port : Option Nat) :
    Connection where
  program := program.or connection.program
  host := host.or connection.host
  port := port.or connection.port

/-- Connection settings as JSON. -/
def toJson (connection : Connection) : Json :=
  .ofMembers
    ((connection.program.toList.map fun program => ("cqlsh", .text program)) ++
      (connection.host.toList.map fun host => ("host", .text host)) ++
      (connection.port.toList.map fun port => ("port", .ofNat port)))

/-- Text that connection settings are kept as. -/
def text (connection : Connection) : String :=
  connection.toJson.pretty

/-- Port of a field that may be absent or null. -/
def port? : Option Json → Option (Option Nat)
  | none => some none
  | some .null => some none
  | some value => (value.nat?.filter (· ≤ maxPort)).map some

/-- Connection settings that a JSON value describes. -/
def ofJson? (value : Json) : Option Connection := do
  match ← value.record? ["cqlsh", "host", "port"] 3 with
  | [program, host, port] =>
    return ⟨← Json.optionalText? program, ← Json.optionalText? host, ← port? port⟩
  | _ => failure

/-- Connection settings that a text describes. -/
def ofText? (text : String) : Option Connection := do
  ofJson? (← Json.parse? text)

/-- Target for the given settings: an override counts before a setting, and a setting before the
default. A port that is overridden by a text that is no port is a fault. -/
def target (overrides : Overrides) (connection : Connection) :
    Except (String × PortFault) Target := do
  let port ← match overrides.port with
    | some text => (portOfText text).mapError (text, ·)
    | none => .ok (connection.port.getD Target.standard.port)
  return {
    program := (overrides.program.or connection.program).getD Target.standard.program
    host := (overrides.host.or connection.host).getD Target.standard.host
    port }

end Connection

end CqlSchema.Settings
