import CqlSchema.Proofs.Json.Pretty
import CqlSchema.Settings.Connection
import CqlSchema.Settings.Context
/-!
# Reading settings back

Settings are kept as objects in which what is not set is left out. A field that is left out is read
as not set, and a field that is written is read as it was, so the text of any context and of any
connection settings with a valid port is read as exactly these settings.
-/

namespace CqlSchema

namespace Json

/-! ## Fields of records -/

/-- Items that are each read back are read back together. -/
theorem mapM_map_eq_some {α β : Type} {step : β → Option α} {image : α → β}
    (inverse : ∀ item, step (image item) = some item) (items : List α) :
    (items.map image).mapM step = some items := by
  induction items with
  | nil => rfl
  | cons item rest ih =>
    rw [List.map_cons, List.mapM_cons, inverse, ih]
    rfl

/-- The text of a string that is written for it is that text. -/
theorem text?_text (value : String) : (text value).text? = some value :=
  unquote?_quote value

/-- The fields of a written object are found by their names. -/
theorem record?_ofMembers (names : List String) (required : Nat) (members : List (String × Json)) :
    record? names required (.ofMembers members) = names.mapM (field? members) := by
  have named : named? (members.map fun entry => member entry.1 entry.2) = some members := by
    refine mapM_map_eq_some (fun entry => ?_) members
    show (unquote? (quote entry.1) >>= fun name => some (name, entry.2)) = some entry
    rw [unquote?_quote]
    rfl
  show (named? (members.map fun entry => member entry.1 entry.2) >>= fun members =>
    names.mapM (field? members)) = _
  rw [named]
  rfl

/-- A text that may be absent is read as it is written. -/
theorem optionalText?_map (value : Option String) :
    optionalText? (value.map .text) = some value := by
  cases value with
  | none => rfl
  | some value =>
    show (text value).text?.map some = some (some value)
    rw [text?_text]
    rfl

/-- Texts are read as they are written. -/
theorem texts?_array (values : List String) :
    texts? (some (.array (values.map .text))) = some values :=
  mapM_map_eq_some text?_text values

/-- A number is read as it is written. -/
theorem nat?_ofNat (value : Nat) : (ofNat value).nat? = some value := by
  have digits : value.repr.toList.all Char.isDigit = true :=
    List.all_eq_true.2 fun c member => isDigit_of_mem_repr member
  have read : Nat.ofDigitChars 10 value.repr.toList 0 = value := by
    rw [Nat.repr_eq_ofList_toDigits, String.toList_ofList]
    exact Nat.ofDigitChars_toDigits (by decide) (by decide)
  rw [ofNat, nat?, if_pos digits, read]

end Json

namespace Settings

open Json

/-! ## Contexts -/

namespace Context

/-- A context is written for texts. -/
theorem isWritten_toJson (context : Context) : IsWritten context.toJson := by
  refine .ofMembers fun entry member => ?_
  rcases List.mem_append.1 member with keyspace | files
  · obtain ⟨value, -, rfl⟩ := List.mem_map.1 keyspace
    exact .text value
  · split at files
    · cases files
    · obtain rfl := List.mem_singleton.1 files
      refine .array fun item inside => ?_
      obtain ⟨file, -, rfl⟩ := List.mem_map.1 inside
      exact .text file

/-- A context is read from its JSON form. -/
theorem ofJson?_toJson (context : Context) : ofJson? context.toJson = some context := by
  obtain ⟨keyspace, files⟩ := context
  have fields : (toJson ⟨keyspace, files⟩).record? ["keyspace", "schema_files"] 1 =
      some [keyspace.map .text,
        if files.isEmpty then none else some (.array (files.map .text))] := by
    rw [toJson, record?_ofMembers]
    cases keyspace <;> cases files <;> rfl
  have read : texts? (if files.isEmpty then none else some (.array (files.map .text))) =
      some files := by
    cases files with
    | nil => rfl
    | cons file rest => exact texts?_array (file :: rest)
  rw [ofJson?, fields]
  show (optionalText? (keyspace.map .text) >>= fun keyspace => _) = _
  rw [optionalText?_map]
  show (texts? _ >>= fun files => _) = _
  rw [read]
  rfl

/-- A context is read from the text that it is kept as. -/
theorem ofText?_text (context : Context) : ofText? context.text = some context := by
  rw [ofText?, text, context.isWritten_toJson.parse?_pretty]
  exact context.ofJson?_toJson

end Context

/-! ## Connection settings -/

namespace Connection

/-- Connection settings whose port is a number of 16 bits. -/
def HasValidPort (connection : Connection) : Prop :=
  ∀ port ∈ connection.port, port ≤ maxPort

/-- Connection settings keep a valid port when they are updated with one. -/
theorem HasValidPort.update {connection : Connection} (valid : connection.HasValidPort)
    {port : Option Nat} (portValid : ∀ number ∈ port, number ≤ maxPort)
    (program host : Option String) : (connection.update program host port).HasValidPort := by
  cases port with
  | none => exact valid
  | some number => exact portValid

/-- Connection settings are written for texts and a number. -/
theorem isWritten_toJson (connection : Connection) : IsWritten connection.toJson := by
  refine .ofMembers fun entry member => ?_
  rcases List.mem_append.1 member with texts | port
  · rcases List.mem_append.1 texts with program | host
    · obtain ⟨value, -, rfl⟩ := List.mem_map.1 program
      exact .text value
    · obtain ⟨value, -, rfl⟩ := List.mem_map.1 host
      exact .text value
  · obtain ⟨value, -, rfl⟩ := List.mem_map.1 port
    exact .number (isNumeral_repr value)

/-- A valid port is read as it is written. -/
theorem port?_map {port : Option Nat} (valid : ∀ number ∈ port, number ≤ maxPort) :
    port? (port.map .ofNat) = some port := by
  cases port with
  | none => rfl
  | some number =>
    have fits : number ≤ maxPort := valid number rfl
    show ((ofNat number).nat?.filter (· ≤ maxPort)).map some = some (some number)
    rw [nat?_ofNat, Option.filter_some, if_pos (decide_eq_true fits)]
    rfl

/-- A port that is read is valid. -/
theorem valid_of_port? {field : Option Json} {port : Option Nat} (read : port? field = some port) :
    ∀ number ∈ port, number ≤ maxPort := by
  unfold port? at read
  split at read
  · cases read
    exact fun _ absent => nomatch absent
  · cases read
    exact fun _ absent => nomatch absent
  · obtain ⟨number, found, rfl⟩ := Option.map_eq_some_iff.1 read
    rintro _ ⟨⟩
    exact of_decide_eq_true (Option.filter_eq_some_iff.1 found).2

/-- Connection settings with a valid port are read from their JSON form. -/
theorem ofJson?_toJson {connection : Connection} (valid : connection.HasValidPort) :
    ofJson? connection.toJson = some connection := by
  obtain ⟨program, host, port⟩ := connection
  have fields : (toJson ⟨program, host, port⟩).record? ["cqlsh", "host", "port"] 3 =
      some [program.map .text, host.map .text, port.map .ofNat] := by
    rw [toJson, record?_ofMembers]
    cases program <;> cases host <;> cases port <;> rfl
  rw [ofJson?, fields]
  show (optionalText? (program.map .text) >>= fun program => _) = _
  rw [optionalText?_map]
  show (optionalText? (host.map .text) >>= fun host => _) = _
  rw [optionalText?_map]
  show (port? (port.map .ofNat) >>= fun port => _) = _
  rw [port?_map valid]
  rfl

/-- Connection settings with a valid port are read from the text that they are kept as. -/
theorem ofText?_text {connection : Connection} (valid : connection.HasValidPort) :
    ofText? connection.text = some connection := by
  rw [ofText?, text, connection.isWritten_toJson.parse?_pretty]
  exact ofJson?_toJson valid

/-- What is read as connection settings has a valid port. -/
theorem hasValidPort_of_ofText? {written : String} {connection : Connection}
    (read : ofText? written = some connection) : connection.HasValidPort := by
  obtain ⟨value, -, described⟩ := Option.bind_eq_some_iff.1 read
  obtain ⟨fields, -, made⟩ := Option.bind_eq_some_iff.1 described
  split at made
  · obtain ⟨program, -, made⟩ := Option.bind_eq_some_iff.1 made
    obtain ⟨host, -, made⟩ := Option.bind_eq_some_iff.1 made
    obtain ⟨port, found, made⟩ := Option.bind_eq_some_iff.1 made
    cases made
    exact valid_of_port? found
  · cases made

end Connection

end Settings

end CqlSchema
