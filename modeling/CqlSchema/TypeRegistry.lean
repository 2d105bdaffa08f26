import CqlSchema.Entries
import CqlSchema.SchemaError
/-!
# Registry of user defined types

User defined types are kept in declaration order and never change once declared. A type may
only refer to types declared before it, so declaration order is an order of dependencies. A
handle resolves where both its position and its name fit, which tells it from a handle of
another registry.
-/

namespace CqlSchema

/-- A declared user defined type: its number in declaration order, its name and its fields. -/
structure UserType where
  index : Nat
  name : String
  fields : Entries DataType
  deriving Repr, DecidableEq

namespace UserType

/-- Handle of a declared type. -/
def handle (type : UserType) : Handle :=
  ⟨type.index, type.name⟩

/-- One field as it is written in a definition. -/
def fieldText (field : String × DataType) : String :=
  field.1 ++ " " ++ field.2.signature

/-- Name and fields of a type as they are written in a statement. -/
def definition (type : UserType) : String :=
  type.name ++ "(" ++ ", ".intercalate (type.fields.map fieldText) ++ ")"

/-- Handles that the fields of a type mention, in order and with repetitions. -/
def dependencies (type : UserType) : List Handle :=
  type.fields.flatMap fun field => field.2.userTypes

end UserType

/-- User defined types in declaration order. -/
structure TypeRegistry where
  types : List UserType
  deriving Repr, DecidableEq

namespace TypeRegistry

/-- Registry without types. -/
def empty : TypeRegistry := ⟨[]⟩

/-- Number of declared types. -/
def size (registry : TypeRegistry) : Nat :=
  registry.types.length

/-- Declared type with the given number. -/
def get? (registry : TypeRegistry) (index : Nat) : Option UserType :=
  registry.types[index]?

/-- Declared type that a handle denotes: the one at its position, if that has its name. -/
def resolve (registry : TypeRegistry) (handle : Handle) : Option UserType :=
  (registry.get? handle.index).filter fun type => type.name == handle.name

/-- Decides whether a handle denotes a type of this registry. -/
def resolves (registry : TypeRegistry) (handle : Handle) : Bool :=
  (registry.resolve handle).isSome

/-- Handle of the type with exactly the given name. -/
def lookup (registry : TypeRegistry) (name : String) : Option Handle :=
  (registry.types.find? fun type => type.name == name).map UserType.handle

/-- Reads a signature whose user defined types are those of this registry. -/
def parse (registry : TypeRegistry) (text : String) : Except SchemaError DataType :=
  (DataType.parse registry.lookup text).mapError (SchemaError.ofSignature text)

/-- Decides whether a declared name equals the given one up to case. -/
def declares (registry : TypeRegistry) (name : String) : Bool :=
  registry.types.any fun type => Text.sameFolded type.name name

/-- Fault of one field, given the fields before it. -/
def fieldFault? (registry : TypeRegistry) (earlier : Entries DataType)
    (field : String × DataType) : Option TypeFault :=
  if !isIdentifier field.1 then some (.fieldNotIdentifier field.1)
  else if !field.2.userTypes.all registry.resolves then some (.fieldReference field.1)
  else if earlier.any (fun other => Text.sameFolded other.1 field.1) then
    some (.duplicateField field.1)
  else none

/-- Fields that a declared type gets, or the error that refuses the declaration. -/
def acceptedFields (registry : TypeRegistry) (name : String) (fields : List (String × DataType)) :
    Except SchemaError (Entries DataType) :=
  if !isIdentifier name then .error (.invalidType name .nameNotIdentifier)
  else if registry.declares name then .error (.duplicateType name)
  else match Entries.collect registry.fieldFault? [] fields with
    | .error fault => .error (.invalidType name fault)
    | .ok collected =>
      if collected.isEmpty then .error (.invalidType name .noFields) else .ok collected

/-- Declares a type at the end of the registry. Returns the registry afterwards, with the handle
of the type or the error that refuses it. -/
def declare (registry : TypeRegistry) (name : String) (fields : List (String × DataType)) :
    TypeRegistry × Except SchemaError Handle :=
  match registry.acceptedFields name fields with
  | .error refusal => (registry, .error refusal)
  | .ok collected =>
    let type : UserType := ⟨registry.size, name, collected⟩
    (⟨registry.types ++ [type]⟩, .ok type.handle)

/-- A type resolves only from a handle that carries its name. -/
theorem name_of_resolve {registry : TypeRegistry} {handle : Handle} {type : UserType}
    (found : registry.resolve handle = some type) : type.name = handle.name := by
  simp only [resolve, Option.filter_eq_some_iff] at found
  simpa using found.2

/-- A resolved handle points inside the registry. -/
theorem index_lt_of_resolve {registry : TypeRegistry} {handle : Handle} {type : UserType}
    (found : registry.resolve handle = some type) : handle.index < registry.size := by
  simp only [resolve, Option.filter_eq_some_iff, get?] at found
  exact (List.getElem?_eq_some_iff.1 found.1).1

end TypeRegistry

end CqlSchema
