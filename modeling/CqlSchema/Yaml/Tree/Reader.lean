import CqlSchema.Yaml.Tree
/-!
# Reading a node

`Tree.readNode` reads one node from the front of a list of tokens with a stack of the
collections that are still open. Every step either takes a token or closes a frame, and a
closed frame leaves fewer frames behind, so reading ends.
-/

namespace CqlSchema.Yaml

namespace Tree

/-- A collection that is still open, with the properties it started with and what it holds so
far in reverse order. -/
inductive Frame where
  | blockSequence (properties : Properties) (items : List (Tree String))
  | indentless (properties : Properties) (items : List (Tree String))
  | blockKey (properties : Properties) (entries : List (Tree String × Tree String))
  | blockValue (properties : Properties) (entries : List (Tree String × Tree String))
      (key : Tree String)
  | flowSequence (properties : Properties) (items : List (Tree String))
  | pairKey (properties : Properties) (items : List (Tree String))
  | pairValue (properties : Properties) (items : List (Tree String)) (key : Tree String)
  | flowKey (properties : Properties) (entries : List (Tree String × Tree String))
  | flowLoneKey (properties : Properties) (entries : List (Tree String × Tree String))
  | flowValue (properties : Properties) (entries : List (Tree String × Tree String))
      (key : Tree String)

/-- Contexts of a node: inside brackets, in a block sequence, or in a block mapping, where a
sequence need not be indented. -/
inductive Context where
  | flow
  | block
  | blockMapping
  deriving DecidableEq

/-- Decides whether the next token is one of the given ones. -/
def nextIs (tokens : List Token) (choices : List Token) : Bool :=
  tokens.head?.any choices.contains

/-- Mapping with a single entry, as it stands in a flow sequence. -/
def pair (key value : Tree String) : Tree String :=
  .mapping none none [(key, value)]

mutual

/-- Reads a node inside the given frames, innermost first. -/
def readNode (handles : Handles) (context : Context) (frames : List Frame)
    (tokens : List Token) : Option (Tree String × List Token) :=
  match found : readProperties handles tokens with
  | none => none
  | some (properties, rest) =>
    have := length_readProperties found
    match rest with
    | .alias name :: after =>
      if properties.isNone then resume handles frames (.alias name) after else none
    | .scalar style text :: after =>
      resume handles frames (properties.scalar style text) after
    | .flowSequenceStart :: after => flowItem handles properties [] frames after
    | .flowMappingStart :: after => flowEntry handles properties [] frames after
    | .blockSequenceStart :: after =>
      if context = .flow then none else blockItem handles properties [] frames after
    | .blockMappingStart :: after =>
      if context = .flow then none else blockEntry handles properties [] frames after
    | .blockEntry :: after =>
      if context = .blockMapping then
        indentlessItem handles properties [] frames (.blockEntry :: after)
      else bareProperties handles properties frames tokens (.blockEntry :: after)
    | rest => bareProperties handles properties frames tokens rest
  termination_by 7 * tokens.length + 3 * frames.length + 3
  decreasing_by all_goals grind

/-- Properties without a node after them belong to an empty scalar; without properties there has
to be a node. -/
def bareProperties (handles : Handles) (properties : Properties) (frames : List Frame)
    (tokens rest : List Token) : Option (Tree String × List Token) :=
  if rest.length < tokens.length then
    resume handles frames (properties.scalar .plain "") rest
  else none
  termination_by 7 * tokens.length + 3 * frames.length + 2
  decreasing_by grind

/-- Hands a finished node to the innermost frame, or ends the document. -/
def resume (handles : Handles) (frames : List Frame) (node : Tree String)
    (tokens : List Token) : Option (Tree String × List Token) :=
  match frames with
  | [] => some (node, tokens)
  | .blockSequence properties items :: frames =>
    blockItem handles properties (node :: items) frames tokens
  | .indentless properties items :: frames =>
    indentlessItem handles properties (node :: items) frames tokens
  | .blockKey properties entries :: frames =>
    blockValue handles properties entries node frames tokens
  | .blockValue properties entries key :: frames =>
    blockEntry handles properties ((key, node) :: entries) frames tokens
  | .flowSequence properties items :: frames =>
    flowSequenceEnd handles properties (node :: items) frames tokens
  | .pairKey properties items :: frames =>
    pairValue handles properties items node frames tokens
  | .pairValue properties items key :: frames =>
    flowSequenceEnd handles properties (pair key node :: items) frames tokens
  | .flowKey properties entries :: frames =>
    flowValue handles properties entries node frames tokens
  | .flowLoneKey properties entries :: frames =>
    flowMappingEnd handles properties ((node, empty) :: entries) frames tokens
  | .flowValue properties entries key :: frames =>
    flowMappingEnd handles properties ((key, node) :: entries) frames tokens
  termination_by 7 * tokens.length + 3 * frames.length
  decreasing_by all_goals grind

/-- Reads the next item of a block sequence, or its end. -/
def blockItem (handles : Handles) (properties : Properties) (items : List (Tree String))
    (frames : List Frame) (tokens : List Token) : Option (Tree String × List Token) :=
  match tokens with
  | .blockEntry :: rest =>
    if nextIs rest [.blockEntry, .blockEnd] then
      blockItem handles properties (empty :: items) frames rest
    else readNode handles .block (.blockSequence properties items :: frames) rest
  | .blockEnd :: rest => resume handles frames (properties.sequence items) rest
  | _ => none
  termination_by 7 * tokens.length + 3 * frames.length + 1
  decreasing_by all_goals grind

/-- Reads the next item of a sequence that is not indented, which ends at any other token. -/
def indentlessItem (handles : Handles) (properties : Properties) (items : List (Tree String))
    (frames : List Frame) (tokens : List Token) : Option (Tree String × List Token) :=
  match tokens with
  | .blockEntry :: rest =>
    if nextIs rest [.blockEntry, .key, .value, .blockEnd] then
      indentlessItem handles properties (empty :: items) frames rest
    else readNode handles .block (.indentless properties items :: frames) rest
  | tokens => resume handles frames (properties.sequence items) tokens
  termination_by 7 * tokens.length + 3 * frames.length + 1
  decreasing_by all_goals grind

/-- Reads the next entry of a block mapping, or its end. -/
def blockEntry (handles : Handles) (properties : Properties)
    (entries : List (Tree String × Tree String)) (frames : List Frame) (tokens : List Token) :
    Option (Tree String × List Token) :=
  match tokens with
  | .key :: rest =>
    if nextIs rest [.key, .value, .blockEnd] then
      blockValue handles properties entries empty frames rest
    else readNode handles .blockMapping (.blockKey properties entries :: frames) rest
  | .blockEnd :: rest => resume handles frames (properties.mapping entries) rest
  | _ => none
  termination_by 7 * tokens.length + 3 * frames.length + 1
  decreasing_by all_goals grind

/-- Reads the value of a block mapping's entry, which may be left out. -/
def blockValue (handles : Handles) (properties : Properties)
    (entries : List (Tree String × Tree String)) (key : Tree String) (frames : List Frame)
    (tokens : List Token) : Option (Tree String × List Token) :=
  match tokens with
  | .value :: rest =>
    if nextIs rest [.key, .value, .blockEnd] then
      blockEntry handles properties ((key, empty) :: entries) frames rest
    else readNode handles .blockMapping (.blockValue properties entries key :: frames) rest
  | tokens => blockEntry handles properties ((key, empty) :: entries) frames tokens
  termination_by 7 * tokens.length + 3 * frames.length + 2
  decreasing_by all_goals grind

/-- Reads an item of a flow sequence, or its end. An item may be a mapping with a single entry
and no brackets of its own. Where the key of such an entry is left out, the token that follows
is passed over. -/
def flowItem (handles : Handles) (properties : Properties) (items : List (Tree String))
    (frames : List Frame) (tokens : List Token) : Option (Tree String × List Token) :=
  match tokens with
  | .flowSequenceEnd :: rest => resume handles frames (properties.sequence items) rest
  | .key :: rest =>
    if nextIs rest [.value, .flowEntry, .flowSequenceEnd] then
      pairValue handles properties items empty frames (rest.drop 1)
    else readNode handles .flow (.pairKey properties items :: frames) rest
  | tokens => readNode handles .flow (.flowSequence properties items :: frames) tokens
  termination_by 7 * tokens.length + 3 * frames.length + 7
  decreasing_by all_goals grind

/-- Reads the value of an entry in a flow sequence, which may be left out. -/
def pairValue (handles : Handles) (properties : Properties) (items : List (Tree String))
    (key : Tree String) (frames : List Frame) (tokens : List Token) :
    Option (Tree String × List Token) :=
  match tokens with
  | .value :: rest =>
    if nextIs rest [.flowEntry, .flowSequenceEnd] then
      flowSequenceEnd handles properties (pair key empty :: items) frames rest
    else readNode handles .flow (.pairValue properties items key :: frames) rest
  | tokens => flowSequenceEnd handles properties (pair key empty :: items) frames tokens
  termination_by 7 * tokens.length + 3 * frames.length + 2
  decreasing_by all_goals grind

/-- Reads what follows an item of a flow sequence: a comma, or the end. -/
def flowSequenceEnd (handles : Handles) (properties : Properties) (items : List (Tree String))
    (frames : List Frame) (tokens : List Token) : Option (Tree String × List Token) :=
  match tokens with
  | .flowEntry :: rest => flowItem handles properties items frames rest
  | .flowSequenceEnd :: rest => resume handles frames (properties.sequence items) rest
  | _ => none
  termination_by 7 * tokens.length + 3 * frames.length + 1
  decreasing_by all_goals grind

/-- Reads an entry of a flow mapping, or its end. -/
def flowEntry (handles : Handles) (properties : Properties)
    (entries : List (Tree String × Tree String)) (frames : List Frame) (tokens : List Token) :
    Option (Tree String × List Token) :=
  match tokens with
  | .flowMappingEnd :: rest => resume handles frames (properties.mapping entries) rest
  | .key :: rest =>
    if nextIs rest [.value, .flowEntry, .flowMappingEnd] then
      flowValue handles properties entries empty frames rest
    else readNode handles .flow (.flowKey properties entries :: frames) rest
  | tokens => readNode handles .flow (.flowLoneKey properties entries :: frames) tokens
  termination_by 7 * tokens.length + 3 * frames.length + 7
  decreasing_by all_goals grind

/-- Reads the value of a flow mapping's entry, which may be left out. -/
def flowValue (handles : Handles) (properties : Properties)
    (entries : List (Tree String × Tree String)) (key : Tree String) (frames : List Frame)
    (tokens : List Token) : Option (Tree String × List Token) :=
  match tokens with
  | .value :: rest =>
    if nextIs rest [.flowEntry, .flowMappingEnd] then
      flowMappingEnd handles properties ((key, empty) :: entries) frames rest
    else readNode handles .flow (.flowValue properties entries key :: frames) rest
  | tokens => flowMappingEnd handles properties ((key, empty) :: entries) frames tokens
  termination_by 7 * tokens.length + 3 * frames.length + 2
  decreasing_by all_goals grind

/-- Reads what follows an entry of a flow mapping: a comma, or the end. -/
def flowMappingEnd (handles : Handles) (properties : Properties)
    (entries : List (Tree String × Tree String)) (frames : List Frame) (tokens : List Token) :
    Option (Tree String × List Token) :=
  match tokens with
  | .flowEntry :: rest => flowEntry handles properties entries frames rest
  | .flowMappingEnd :: rest => resume handles frames (properties.mapping entries) rest
  | _ => none
  termination_by 7 * tokens.length + 3 * frames.length + 1
  decreasing_by all_goals grind

end

end Tree

end CqlSchema.Yaml
