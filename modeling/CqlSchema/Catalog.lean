import CqlSchema.Table
import CqlSchema.TypeRegistry
/-!
# Catalog

A catalog is everything that one synthesis reads: the declared user defined types and the
declared tables. A declaration works on a catalog in place: it returns the catalog as it is
afterwards, whether it was carried out or refused.
-/

namespace CqlSchema

/-- Declared types and tables. -/
structure Catalog where
  types : TypeRegistry
  tables : TableRegistry
  deriving Repr, DecidableEq

namespace Catalog

/-- Catalog without declarations. -/
def empty : Catalog := ⟨.empty, .empty⟩

/-- Declares a user defined type. Returns the catalog afterwards, with the handle of the type or
the error that refuses it. -/
def addType (catalog : Catalog) (name : String) (fields : List (String × DataType)) :
    Catalog × Except SchemaError Handle :=
  let (types, outcome) := catalog.types.declare name fields
  ({ catalog with types }, outcome)

/-- First column whose type mentions a handle of another catalog. -/
def foreignColumn? (catalog : Catalog) (columns : List (String × Column)) : Option String :=
  (columns.find? fun entry => !entry.2.type.userTypes.all catalog.types.resolves).map Prod.fst

/-- Declares a table whose columns mention only types of this catalog. Returns the catalog
afterwards, with the table or the error that refuses it. -/
def addTable (catalog : Catalog) (declaration : TableDeclaration) :
    Catalog × Except SchemaError Table :=
  match catalog.foreignColumn? declaration.columns with
  | some column => (catalog, .error (.invalidColumn declaration.name column .reference))
  | none =>
    let (tables, outcome) := catalog.tables.declare declaration
    ({ catalog with tables }, outcome)

/-- Handle of a declared type, with the catalog that has it. -/
def declareType (catalog : Catalog) (name : String) (fields : List (String × DataType)) :
    Except SchemaError (Handle × Catalog) :=
  let (extended, outcome) := catalog.addType name fields
  outcome.map fun handle => (handle, extended)

/-- Catalog that has a declared table. -/
def declareTable (catalog : Catalog) (declaration : TableDeclaration) :
    Except SchemaError Catalog :=
  let (extended, outcome) := catalog.addTable declaration
  outcome.map fun _ => extended

end Catalog

end CqlSchema
