import CqlSchema.Json.Reader
/-!
# Records

A record is written as an object, in which unknown names are passed over and a known name may
stand once, or as an array of its fields in order.
-/

namespace CqlSchema.Json

/-- Members of an object with the texts of their names. -/
def named? (members : List (String × Json)) : Option (List (String × Json)) :=
  members.mapM fun (name, value) => do return (← unquote? name, value)

/-- Value of a field, if it is written; a field that is written twice is a fault. -/
def field? (members : List (String × Json)) (name : String) : Option (Option Json) :=
  match members.filter (·.1 == name) with
  | [] => some none
  | [(_, value)] => some (some value)
  | _ => none

/-- Fields of a record with the given names. An array has to hold the first fields, as many as
are required. -/
def record? (names : List String) (required : Nat) : Json → Option (List (Option Json))
  | .object members => do
    let members ← named? members
    names.mapM (field? members)
  | .array items =>
    if required ≤ items.length ∧ items.length ≤ names.length then
      some (items.map some ++ List.replicate (names.length - items.length) none)
    else none
  | _ => none

/-- Text of a field that may be absent or null. -/
def optionalText? : Option Json → Option (Option String)
  | none => some none
  | some .null => some none
  | some value => value.text?.map some

/-- Texts of a field that is an array, or absent. -/
def texts? : Option Json → Option (List String)
  | none => some []
  | some (.array items) => items.mapM text?
  | some _ => none

/-- Natural number as it is written without a sign, a point or an exponent. -/
def nat? : Json → Option Nat
  | .number written =>
    if written.toList.all Char.isDigit then some (Nat.ofDigitChars 10 written.toList 0) else none
  | _ => none

end CqlSchema.Json
