import CqlSchema.Document.Declare
import CqlSchema.Yaml.Token.Scan
import CqlSchema.Yaml.Tree.Stream
import CqlSchema.Yaml.Value
/-!
# Reading documents

A document is written as a YAML mapping. Keys and field types are taken as their texts, whatever
type they would have; the description of a column is typed, and only texts count as texts there.
A text is read as a whole before anything in it is declared.
-/

namespace CqlSchema

namespace Yaml

/-- Entries of a node that stands for a mapping; a plain scalar without a text is the empty
mapping. -/
def Node.entries? : Node → Option (List (Node × Node))
  | .mapping _ entries => some entries
  | .scalar written => if written.style = .plain ∧ written.text.isEmpty then some [] else none
  | .sequence .. => none

/-- Text of a scalar, whatever its type. -/
def Node.text? : Node → Option String
  | .scalar written => some written.text
  | _ => none

/-- Entries with the texts of their keys. -/
def Node.namedEntries? (node : Node) : Option (Entries Node) := do
  (← node.entries?).mapM fun (key, value) => do return (← key.text?, value)

/-- Entries of a record: every key is one of the given ones and occurs once. -/
def Node.record? (node : Node) (keys : List String) : Option (Entries Node) := do
  let entries ← node.namedEntries?
  let written := entries.map Prod.fst
  if written.all keys.contains && Value.allDifferent written then return entries else failure

/-- Text of a scalar that may be null; none inside stands for null. -/
def Node.optionalText? : Node → Option (Option String)
  | .scalar ⟨tag, style, text⟩ =>
    if style ≠ .plain then some (some text)
    else match tag with
      | none => if text.isEmpty || ScalarValue.isNullText text then some none else some (some text)
      | some tag =>
        if tag = .standard "null" then
          if ScalarValue.isNullText text then some none else none
        else some (some text)
  | _ => none

/-- Unsigned integer of 32 bits: a plain scalar, or a literal one that is tagged as an integer. -/
def Node.natural? : Node → Option Nat
  | .scalar ⟨tag, style, text⟩ =>
    if style = .plain ∨ style = .literal ∧ tag = some (.standard "int") then
      ((ScalarValue.integer? text).filter fun value =>
        0 ≤ value && value < 4294967296).map Int.toNat
    else none
  | _ => none

/-- Text among typed values. -/
def Value.text? : Value → Option String
  | .scalar (.text text) => some text
  | _ => none

/-- Text or null among typed values. -/
def Value.optionalText? : Value → Option (Option String)
  | .scalar .null => some none
  | .scalar (.text text) => some (some text)
  | _ => none

/-- Truth value or null among typed values. -/
def Value.optionalBool? : Value → Option (Option Bool)
  | .scalar .null => some none
  | .scalar (.bool value) => some (some value)
  | _ => none

end Yaml

open Yaml (Node Value)

namespace ColumnDetail

/-- Keys that a description may have. -/
def keys : List String := ["type", "key", "order", "static"]

/-- Value of one of the keys, read as what it has to be; an absent key counts as null. -/
def part {α : Type} (entries : Entries Value) (key : String)
    (read : Value → Option (Option α)) : Option (Option α) :=
  (entries.lookup key).elim (some none) read

/-- Description that typed entries write. A known key occurs at most once; the values of unknown
keys are plain data. -/
def ofEntries? (entries : Entries Value) : Option ColumnDetail := do
  let (known, unknown) := entries.partition fun entry => keys.contains entry.1
  if !Value.allDifferent (known.map Prod.fst) then failure
  if !unknown.all fun entry => entry.2.hasDistinctKeys then failure
  return {
    type := ← part known "type" Value.optionalText?
    key := ← part known "key" Value.optionalText?
    order := ← part known "order" Value.optionalText?
    isStatic := ← part known "static" Value.optionalBool?
    unknown := (Entries.settle unknown).map Prod.fst }

end ColumnDetail

/-- Column that a typed value describes. -/
def ColumnEntry.ofValue? : Value → Option ColumnEntry
  | .scalar (.text text) => some (.signature text)
  | .mapping entries => do
    let named ← entries.mapM fun (key, value) => do return (← key.text?, value)
    return .detail (← ColumnDetail.ofEntries? named)
  | _ => none

/-- Table that a node describes. -/
def TableEntry.ofNode? (node : Node) : Option TableEntry := do
  let entries ← node.record? ["name", "columns"]
  let name ← (entries.lookup "name").elim (some none) Node.optionalText?
  let columns ← (← entries.lookup "columns").namedEntries?
  return ⟨name, ← columns.mapM fun (name, column) => do
    return (name, ← ColumnEntry.ofValue? (← column.value?))⟩

namespace Document

/-- Fields of a type that a node describes. -/
def fieldsOfNode? (node : Node) : Option (Entries String) := do
  (← node.namedEntries?).mapM fun (name, type) => do return (name, ← type.text?)

/-- Named things in a section of a document; an absent section is empty. -/
def sectionOf? {α : Type} (entries : Entries Node) (key : String) (read : Node → Option α) :
    Option (Entries α) :=
  match entries.lookup key with
  | none => some []
  | some node => do
    (← node.namedEntries?).mapM fun (name, body) => do return (name, ← read body)

/-- Document that a node describes. -/
def ofNode? (node : Node) : Option Document := do
  let entries ← node.record? ["version", "types", "tables"]
  return {
    version := ← (entries.lookup "version").elim (some SchemaError.supportedVersion) Node.natural?
    types := ← sectionOf? entries "types" fieldsOfNode?
    tables := ← sectionOf? entries "tables" TableEntry.ofNode? }

/-- Document that a text writes; a text without a document is the empty document. -/
def ofText? (text : String) : Option Document := do
  match ← Yaml.Tree.ofTokens? (← Yaml.Token.ofText? text) with
  | none => return .empty
  | some tree => ofNode? (← tree.node?)

end Document

/-- Reads a text and declares its document in a catalog. -/
def Catalog.declareText (catalog : Catalog) (text : String) : Catalog × Except SchemaError Unit :=
  match Document.ofText? text with
  | none => (catalog, .error (.unreadableDocument text))
  | some document => catalog.declareDocument document

/-- Reads texts and declares their documents in a catalog, one after the other. The first failure
ends this without a catalog. -/
def Catalog.declareTexts (catalog : Catalog) : List String → Except SchemaError Catalog
  | [] => .ok catalog
  | text :: rest =>
    match catalog.declareText text with
    | (extended, .ok ()) => extended.declareTexts rest
    | (_, .error error) => .error error

/-- Catalog that texts declare together; a text may mention types of the texts before it. -/
def Catalog.ofTexts (texts : List String) : Except SchemaError Catalog :=
  Catalog.empty.declareTexts texts

end CqlSchema
