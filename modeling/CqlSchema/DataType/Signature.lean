import CqlSchema.DataType
/-!
# Signatures

The signature of a type is its spelling in statements: keywords for scalars, angle brackets
around elements, one comma and no blank between the two elements of a map, and `frozen` around
a frozen type.
-/

namespace CqlSchema.DataType

/-- Surrounds a signature with `frozen` where the flag asks for it. -/
def wrapFrozen (frozen : Bool) (inner : String) : String :=
  if frozen then "frozen<" ++ inner ++ ">" else inner

/-- Spelling of a type in statements. -/
def signature : DataType → String
  | .scalar frozen base => wrapFrozen frozen base.keyword
  | .list frozen item => wrapFrozen frozen ("list<" ++ item.signature ++ ">")
  | .set frozen item => wrapFrozen frozen ("set<" ++ item.signature ++ ">")
  | .map frozen key value =>
    wrapFrozen frozen ("map<" ++ key.signature ++ "," ++ value.signature ++ ">")
  | .user frozen handle => wrapFrozen frozen handle.name

/-- Freezing a type puts one wrapper around it. -/
theorem signature_freeze {type : DataType} (h : type.isFrozen = false) :
    type.freeze.signature = "frozen<" ++ type.signature ++ ">" := by
  cases type <;> simp_all [isFrozen, freeze, withFrozen, signature, wrapFrozen]

end CqlSchema.DataType
