import CqlSchema.Yaml.Token
/-!
# Written trees

A document as it is written: scalars, sequences and mappings, any of which may carry an anchor,
and aliases that refer to anchors. An anchor and a tag stand in front of their node, in either
order; a tag is written with a handle whose meaning a directive may give.
-/

namespace CqlSchema.Yaml

/-- Written trees whose anchors and aliases are labelled by `α`. -/
inductive Tree (α : Type) where
  | alias (target : α)
  | scalar (anchor : Option α) (scalar : Scalar)
  | sequence (anchor : Option α) (tag : Option Tag) (items : List (Tree α))
  | mapping (anchor : Option α) (tag : Option Tag) (entries : List (Tree α × Tree α))

namespace Tree

/-- Tree that stands where nothing is written. -/
def empty : Tree String := .scalar none .empty

/-- Anchor and tag in front of a node. -/
structure Properties where
  anchor : Option String
  tag : Option Tag

namespace Properties

/-- Neither anchor nor tag. -/
def none : Properties := ⟨.none, .none⟩

/-- Decides whether there is neither anchor nor tag. -/
def isNone (properties : Properties) : Bool :=
  properties.anchor.isNone && properties.tag.isNone

/-- Scalar with these properties. On a scalar the tag that is a single exclamation mark says
nothing. -/
def scalar (properties : Properties) (style : Style) (text : String) : Tree String :=
  .scalar properties.anchor ⟨properties.tag.filter (·.bytes != [33]), style, text⟩

/-- Sequence with these properties; the items come in reverse order. -/
def sequence (properties : Properties) (items : List (Tree String)) : Tree String :=
  .sequence properties.anchor properties.tag items.reverse

/-- Mapping with these properties; the entries come in reverse order. -/
def mapping (properties : Properties) (entries : List (Tree String × Tree String)) :
    Tree String :=
  .mapping properties.anchor properties.tag entries.reverse

end Properties

/-- Meanings of tag handles. -/
abbrev Handles := List (List Char × List UInt8)

/-- Meanings that handles have unless a directive says otherwise. -/
def standardHandles : Handles :=
  [(['!'], [33]), (['!', '!'], Tag.standardPart.toUTF8.toList)]

/-- Tag with the given handle and suffix. An empty handle leaves the suffix as it is. -/
def resolveTag (handles : Handles) (handle : List Char) (suffix : List UInt8) : Option Tag :=
  if handle.isEmpty then some ⟨suffix⟩
  else (handles.lookup handle).map fun start => ⟨start ++ suffix⟩

/-- Reads the anchor and the tag in front of a node, in either order. -/
def readProperties (handles : Handles) : List Token → Option (Properties × List Token)
  | .anchor name :: .tag handle suffix :: rest =>
    (resolveTag handles handle suffix).map fun tag => (⟨some name, some tag⟩, rest)
  | .tag handle suffix :: .anchor name :: rest =>
    (resolveTag handles handle suffix).map fun tag => (⟨some name, some tag⟩, rest)
  | .anchor name :: rest => some (⟨some name, none⟩, rest)
  | .tag handle suffix :: rest =>
    (resolveTag handles handle suffix).map fun tag => (⟨none, some tag⟩, rest)
  | rest => some (.none, rest)

/-- What follows the properties is no longer than the tokens they were read from. -/
theorem length_readProperties {handles : Handles} {tokens rest : List Token}
    {properties : Properties} (found : readProperties handles tokens = some (properties, rest)) :
    rest.length ≤ tokens.length := by
  unfold readProperties at found
  split at found
  · obtain ⟨tag, _, shape⟩ := Option.map_eq_some_iff.1 found
    cases shape
    simp only [List.length_cons]
    omega
  · obtain ⟨tag, _, shape⟩ := Option.map_eq_some_iff.1 found
    cases shape
    simp only [List.length_cons]
    omega
  · cases found
    simp only [List.length_cons]
    omega
  · obtain ⟨tag, _, shape⟩ := Option.map_eq_some_iff.1 found
    cases shape
    simp only [List.length_cons]
    omega
  · cases found
    exact Nat.le_refl _

end Tree

end CqlSchema.Yaml
