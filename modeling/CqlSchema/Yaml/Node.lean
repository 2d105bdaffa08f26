import CqlSchema.Yaml.Tree
/-!
# Nodes

A node is a tree without anchors and aliases. Anchors are numbered in the order in which they are
written; the number of an anchor is the count of different names before it, so a name that is
anchored again takes the number of the next new name. An alias refers to the number that its
name has where the alias stands, and a number belongs to the last node that carries it.
`Tree.node?` replaces every alias by its node. Both the depth of a node and the count of replaced
aliases are bounded, so the replacement ends even where a node contains itself.
-/

namespace CqlSchema.Yaml

/-- Trees without anchors and aliases. -/
inductive Node where
  | scalar (scalar : Scalar)
  | sequence (tag : Option Tag) (items : List Node)
  | mapping (tag : Option Tag) (entries : List (Node × Node))

namespace Tree

/-! ## Numbers of anchors -/

/-- Numbers of the anchored names. -/
abbrev AnchorNumbers := List (String × Nat)

/-- Computations that may give out numbers and may fail. -/
abbrev Numbering := StateT AnchorNumbers Option

/-- Gives the next number to a name. -/
def anchorNumber (name : String) : Numbering Nat := fun numbers =>
  some (numbers.length, (name, numbers.length) :: numbers.filter (·.1 != name))

/-- Numbers an optional anchor. -/
def numberAnchor : Option String → Numbering (Option Nat)
  | none => pure none
  | some name => some <$> anchorNumber name

mutual

/-- Replaces the names of anchors and aliases by numbers; none where an alias has no anchor in
front of it. -/
def number : Tree String → Numbering (Tree Nat)
  | .alias name => do .alias <$> (← get).lookup name
  | .scalar anchor written => do return .scalar (← numberAnchor anchor) written
  | .sequence anchor tag items => do
    let anchor ← numberAnchor anchor
    return .sequence anchor tag (← numberItems items)
  | .mapping anchor tag entries => do
    let anchor ← numberAnchor anchor
    return .mapping anchor tag (← numberEntries entries)

/-- Numbers the items of a sequence in order. -/
def numberItems : List (Tree String) → Numbering (List (Tree Nat))
  | [] => pure []
  | item :: items => do
    let item ← number item
    return item :: (← numberItems items)

/-- Numbers the entries of a mapping in order. -/
def numberEntries : List (Tree String × Tree String) →
    Numbering (List (Tree Nat × Tree Nat))
  | [] => pure []
  | (key, value) :: entries => do
    let key ← number key
    let value ← number value
    return (key, value) :: (← numberEntries entries)

end

/-! ## Anchored nodes -/

/-- A node with its number in front, if it has one. -/
def withNumber (anchor : Option Nat) (tree : Tree Nat) (others : List (Nat × Tree Nat)) :
    List (Nat × Tree Nat) :=
  match anchor with
  | none => others
  | some anchor => (anchor, tree) :: others

mutual

/-- Anchored nodes in written order, outer nodes before inner ones. -/
def anchored : Tree Nat → List (Nat × Tree Nat)
  | .alias _ => []
  | .scalar anchor written => withNumber anchor (.scalar anchor written) []
  | .sequence anchor tag items =>
    withNumber anchor (.sequence anchor tag items) (anchoredItems items)
  | .mapping anchor tag entries =>
    withNumber anchor (.mapping anchor tag entries) (anchoredEntries entries)

/-- Anchored nodes in the items of a sequence. -/
def anchoredItems : List (Tree Nat) → List (Nat × Tree Nat)
  | [] => []
  | item :: items => anchored item ++ anchoredItems items

/-- Anchored nodes in the entries of a mapping. -/
def anchoredEntries : List (Tree Nat × Tree Nat) → List (Nat × Tree Nat)
  | [] => []
  | (key, value) :: entries => anchored key ++ (anchored value ++ anchoredEntries entries)

end

mutual

/-- Size of a tree: one for a scalar or an alias, two for a collection next to its parts. -/
def size : Tree Nat → Nat
  | .alias _ => 1
  | .scalar _ _ => 1
  | .sequence _ _ items => 2 + sizeItems items
  | .mapping _ _ entries => 2 + sizeEntries entries

/-- Size of the items of a sequence. -/
def sizeItems : List (Tree Nat) → Nat
  | [] => 0
  | item :: items => size item + sizeItems items

/-- Size of the entries of a mapping. -/
def sizeEntries : List (Tree Nat × Tree Nat) → Nat
  | [] => 0
  | (key, value) :: entries => size key + size value + sizeEntries entries

end

/-! ## Replacing aliases -/

/-- Runs with the number of aliases that may still be replaced. -/
abbrev Budgeted := StateT Nat Option

/-- Spends one replacement, if one is left. -/
def spend : Budgeted Unit := fun left =>
  match left with
  | 0 => none
  | left + 1 => some ((), left)

/-- Node that stands at a place: an alias stands for its anchored node. -/
def follow (targets : List (Nat × Tree Nat)) : Tree Nat → Budgeted (Tree Nat)
  | .alias target => do
    spend
    targets.lookup target
  | tree => pure tree

/-- Replaces aliases in a tree of at most the given depth. -/
def expand (targets : List (Nat × Tree Nat)) : Nat → Tree Nat → Budgeted Node
  | 0, tree => do
    match ← follow targets tree with
    | .scalar _ written => return .scalar written
    | _ => failure
  | depth + 1, tree => do
    match ← follow targets tree with
    | .alias _ => failure
    | .scalar _ written => return .scalar written
    | .sequence _ tag items =>
      return .sequence tag (← items.mapM (expand targets depth))
    | .mapping _ tag entries =>
      return .mapping tag (← entries.mapM fun (key, value) => do
        let key ← expand targets depth key
        return (key, ← expand targets depth value))

/-- Collections may be nested this deep. -/
def maxDepth : Nat := 128

/-- Aliases that may be replaced for each part of a document. -/
def maxReplacements : Nat := 100

/-- Node that a written tree stands for. -/
def node? (tree : Tree String) : Option Node := do
  let (tree, _) ← (number tree).run []
  let (node, _) ← (expand tree.anchored.reverse maxDepth tree).run (maxReplacements * tree.size)
  return node

end Tree

end CqlSchema.Yaml
