/-!
# Column types

A type is a scalar, a list, set or map of types, or a user defined type named by a handle. Each
type carries its own frozen flag, independent of the flags of its elements. `userTypes` lists
the handles that occur in a type, and `nonFrozenNesting` finds the first element that may not
stand unfrozen where it stands.
-/

namespace CqlSchema

/-- Scalar types of the query language. -/
inductive Scalar where
  | ascii
  | bigint
  | blob
  | boolean
  | counter
  | decimal
  | double
  | float
  | inet
  | int
  | text
  | timestamp
  | timeuuid
  | uuid
  | varchar
  | varint
  deriving Repr, DecidableEq

namespace Scalar

/-- Every scalar, in alphabetical order. -/
def all : List Scalar :=
  [.ascii, .bigint, .blob, .boolean, .counter, .decimal, .double, .float, .inet, .int, .text,
    .timestamp, .timeuuid, .uuid, .varchar, .varint]

theorem mem_all (scalar : Scalar) : scalar ∈ all := by
  cases scalar <;> decide

/-- Keyword that names a scalar in a signature. -/
def keyword : Scalar → String
  | .ascii => "ascii"
  | .bigint => "bigint"
  | .blob => "blob"
  | .boolean => "boolean"
  | .counter => "counter"
  | .decimal => "decimal"
  | .double => "double"
  | .float => "float"
  | .inet => "inet"
  | .int => "int"
  | .text => "text"
  | .timestamp => "timestamp"
  | .timeuuid => "timeuuid"
  | .uuid => "uuid"
  | .varchar => "varchar"
  | .varint => "varint"

end Scalar

/-- Handle of a user defined type: its position in the registry that issued it, and its name.
Positions of two registries overlap, so the name is what tells their handles apart. -/
structure Handle where
  index : Nat
  name : String
  deriving Repr, DecidableEq

/-- Types of columns and fields, each with its own frozen flag. -/
inductive DataType where
  | scalar (frozen : Bool) (base : Scalar)
  | list (frozen : Bool) (item : DataType)
  | set (frozen : Bool) (item : DataType)
  | map (frozen : Bool) (key value : DataType)
  | user (frozen : Bool) (handle : Handle)
  deriving Repr, DecidableEq

namespace DataType

/-- Frozen flag of the outermost type. -/
def isFrozen : DataType → Bool
  | .scalar frozen _ | .list frozen _ | .set frozen _ | .map frozen _ _ | .user frozen _ => frozen

/-- The same type with the given frozen flag; flags of elements stay as they are. -/
def withFrozen (frozen : Bool) : DataType → DataType
  | .scalar _ base => .scalar frozen base
  | .list _ item => .list frozen item
  | .set _ item => .set frozen item
  | .map _ key value => .map frozen key value
  | .user _ handle => .user frozen handle

/-- The same type, frozen. -/
def freeze (type : DataType) : DataType :=
  type.withFrozen true

/-- Lists, sets and maps are collections. -/
def isCollection : DataType → Bool
  | .list .. | .set .. | .map .. => true
  | .scalar .. | .user .. => false

/-- Recognises a user defined type. -/
def isUser : DataType → Bool
  | .user .. => true
  | _ => false

/-- Element types that stand directly inside a collection. -/
def elements : DataType → List DataType
  | .list _ item | .set _ item => [item]
  | .map _ key value => [key, value]
  | .scalar .. | .user .. => []

/-- Handles of the user defined types in a type, from left to right and with repetitions. -/
def userTypes : DataType → List Handle
  | .scalar .. => []
  | .list _ item | .set _ item => item.userTypes
  | .map _ key value => key.userTypes ++ value.userTypes
  | .user _ handle => [handle]

/-- An unfrozen collection or user defined type is loose: it may not be an element of an
unfrozen collection. -/
def isLoose (type : DataType) : Bool :=
  (type.isCollection || type.isUser) && !type.isFrozen

/-- First loose element below unfrozen collections. A frozen collection is stored as one value,
so nothing inside it counts. -/
def nonFrozenNesting : DataType → Option DataType
  | .list false item | .set false item =>
    if item.isLoose then some item else item.nonFrozenNesting
  | .map false key value =>
    (if key.isLoose then some key else key.nonFrozenNesting).or
      (if value.isLoose then some value else value.nonFrozenNesting)
  | _ => none

@[simp] theorem withFrozen_withFrozen (first second : Bool) (type : DataType) :
    (type.withFrozen first).withFrozen second = type.withFrozen second := by
  cases type <;> rfl

@[simp] theorem userTypes_withFrozen (frozen : Bool) (type : DataType) :
    (type.withFrozen frozen).userTypes = type.userTypes := by
  cases type <;> rfl

end DataType

end CqlSchema
