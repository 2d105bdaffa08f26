import CqlSchema.Statement
/-!
# Types that are needed

The types that a list of handles needs are those it denotes and, again and again, those that
their fields mention. They are found with a stack of handles still to follow. The numbers not
yet found only shrink, and the stack only grows when one of them is found, so the search ends.
The types that are found are created in the order in which they were declared.
-/

namespace CqlSchema.TypeRegistry

/-- Error about a handle of some other registry. -/
def foreign (handle : Handle) : SchemaError :=
  .invalidType handle.name .undeclared

/-- Follows a stack of handles; `unseen` holds the numbers not found so far. Returns the numbers
that remain unseen. -/
def follow (registry : TypeRegistry) (unseen : List Nat) (pending : List Handle) :
    Except SchemaError (List Nat) :=
  match pending with
  | [] => .ok unseen
  | handle :: rest =>
    match registry.resolve handle with
    | none => .error (foreign handle)
    | some type =>
      if handle.index ∈ unseen then
        registry.follow (unseen.erase handle.index) (type.dependencies.reverse ++ rest)
      else registry.follow unseen rest
  termination_by (unseen.length, pending.length)
  decreasing_by
    · rename_i member
      apply Prod.Lex.left
      rw [List.length_erase_of_mem member]
      have : 0 < unseen.length := List.length_pos_of_mem member
      omega
    · apply Prod.Lex.right
      simp

/-- Numbers of all types that the given handles need, in increasing order. The handle that is
reported when some do not resolve is the last of them, since the stack is followed from its
end. -/
def closure (registry : TypeRegistry) (used : List Handle) : Except SchemaError (List Nat) := do
  let numbers := List.range registry.size
  let unseen ← registry.follow numbers used.reverse
  return numbers.filter fun number => !unseen.contains number

/-- Types that the given handles need, in declaration order. -/
def needed (registry : TypeRegistry) (used : List Handle) : Except SchemaError (List UserType) :=
  do
    let wanted ← registry.closure used
    return registry.types.filter fun type => wanted.contains type.index

/-- Texts of the statements that create the types which the given handles need, in declaration
order. -/
def creations (registry : TypeRegistry) (keyspace : String) (used : List Handle) :
    Except SchemaError (List String) :=
  (registry.needed used).map (List.map fun type => (Statement.createType keyspace type).text)

end CqlSchema.TypeRegistry
