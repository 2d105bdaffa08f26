import CqlSchema.Json.Literal
import CqlSchema.Yaml.Node
/-!
# Typed values

A value is a node whose scalars are typed. `Node.value?` types a node; a node has no value where
a tag does not fit, where a tag names a variant, and where an integer exceeds every 64-bit word.
Two values are the same when they differ only in the order of the entries of their mappings and
in the spelling of their numbers; `Value.fingerprint` is a text that exactly the same values
share.
-/

namespace CqlSchema.Yaml

/-- Nodes with typed scalars. -/
inductive Value where
  | scalar (value : ScalarValue)
  | sequence (items : List Value)
  | mapping (entries : List (Value × Value))

/-- Value of a scalar as part of a node. -/
def Scalar.plainValue? (written : Scalar) : Option ScalarValue :=
  if written.tag.any Tag.isVariant then none
  else written.value?.filter fun value =>
    match value with
    | .integer number => ScalarValue.isWord number
    | _ => true

mutual

/-- Value of a node. -/
def Node.value? : Node → Option Value
  | .scalar written => written.plainValue?.map Value.scalar
  | .sequence tag items =>
    if tag.any Tag.isVariant then none else (itemValues? items).map Value.sequence
  | .mapping tag entries =>
    if tag.any Tag.isVariant then none else (entryValues? entries).map Value.mapping

/-- Values of the items of a sequence. -/
def itemValues? : List Node → Option (List Value)
  | [] => some []
  | item :: items => do return (← item.value?) :: (← itemValues? items)

/-- Values of the entries of a mapping. -/
def entryValues? : List (Node × Node) → Option (List (Value × Value))
  | [] => some []
  | (key, value) :: entries => do
    return (← key.value?, ← value.value?) :: (← entryValues? entries)

end

namespace RealNumber

/-- Moves the zeros at the end of the digits into the exponent. -/
def normalDigits (digits : Nat) (exponent : Int) : Nat × Int :=
  if 0 < digits ∧ digits % 10 = 0 then normalDigits (digits / 10) (exponent + 1)
  else (digits, exponent)

/-- Text of a number that all its spellings share. -/
def fingerprint : RealNumber → String
  | .nan => "nan"
  | .infinity negative => if negative then "-inf" else "inf"
  | .decimal negative digits exponent =>
    let (digits, exponent) := normalDigits digits exponent
    (if negative then "-" else "") ++ s!"{digits}e{exponent}"

end RealNumber

/-- Text of a scalar that the same scalars share. -/
def ScalarValue.fingerprint : ScalarValue → String
  | .null => "null"
  | .bool value => if value then "true" else "false"
  | .integer value => s!"i{value}"
  | .real value => s!"r{value.fingerprint}"
  | .text value => Json.quote value

namespace Value

/-- Parts between brackets. -/
def bracketed (opening closing : String) (parts : List String) : String :=
  opening ++ ",".intercalate parts ++ closing

mutual

/-- Text that exactly the same values share. The entries of a mapping are sorted in it. -/
def fingerprint : Value → String
  | .scalar value => value.fingerprint
  | .sequence items => bracketed "[" "]" (itemFingerprints items)
  | .mapping entries =>
    bracketed "\x7b" "\x7d" ((entryFingerprints entries).mergeSort fun left right => left ≤ right)

/-- Texts of the items of a sequence. -/
def itemFingerprints : List Value → List String
  | [] => []
  | item :: items => item.fingerprint :: itemFingerprints items

/-- Texts of the entries of a mapping. -/
def entryFingerprints : List (Value × Value) → List String
  | [] => []
  | (key, value) :: entries =>
    s!"{key.fingerprint}:{value.fingerprint}" :: entryFingerprints entries

end

/-- Decides whether no two of the given texts are equal. -/
def allDifferent : List String → Bool
  | [] => true
  | text :: texts => !texts.contains text && allDifferent texts

mutual

/-- Decides whether the keys of every mapping in a value are different. -/
def hasDistinctKeys : Value → Bool
  | .scalar _ => true
  | .sequence items => itemsHaveDistinctKeys items
  | .mapping entries =>
    allDifferent (entries.map fun entry => entry.1.fingerprint) && entriesHaveDistinctKeys entries

/-- Decides it for the items of a sequence. -/
def itemsHaveDistinctKeys : List Value → Bool
  | [] => true
  | item :: items => item.hasDistinctKeys && itemsHaveDistinctKeys items

/-- Decides it for the entries of a mapping. -/
def entriesHaveDistinctKeys : List (Value × Value) → Bool
  | [] => true
  | (key, value) :: entries =>
    key.hasDistinctKeys && value.hasDistinctKeys && entriesHaveDistinctKeys entries

end

end Value

end CqlSchema.Yaml
