import CqlSchema.Entries
/-!
# Schema documents

A document declares user defined types and tables by name. It is kept here as it is written:
every mapping is a list of entries in written order, repeated keys included. The mappings that
count are the settled ones.
-/

namespace CqlSchema

/-- Detailed description of a column. The keys that no column has are kept in the order in which
they first occur. -/
structure ColumnDetail where
  type : Option String
  key : Option String
  order : Option String
  isStatic : Option Bool
  unknown : List String
  deriving Repr, DecidableEq

/-- Description of a column: a signature alone, or details. -/
inductive ColumnEntry where
  | signature (text : String)
  | detail (description : ColumnDetail)
  deriving Repr, DecidableEq

/-- A signature alone gives the type and leaves everything else out. -/
def ColumnEntry.toDetail : ColumnEntry → ColumnDetail
  | .signature text => ⟨some text, none, none, none, []⟩
  | .detail description => description

/-- Description of a table: a name that may replace the declared one, and the columns. -/
structure TableEntry where
  name : Option String
  columns : Entries ColumnEntry
  deriving Repr, DecidableEq

/-- A document with its version, its types and its tables. -/
structure Document where
  version : Nat
  types : Entries (Entries String)
  tables : Entries TableEntry
  deriving Repr, DecidableEq

namespace Document

/-- Document without declarations, in the supported version. -/
def empty : Document := ⟨1, [], []⟩

/-- Document in which every mapping is settled, the inner ones first. -/
def settled (document : Document) : Document where
  version := document.version
  types := Entries.settle (document.types.map fun (name, fields) => (name, fields.settle))
  tables := Entries.settle (document.tables.map fun (name, table) =>
    (name, { table with columns := table.columns.settle }))

end Document

end CqlSchema
