import CqlSchema.Yaml.Token.Folding
/-!
# Plain scalars

A plain scalar has no quotes and ends where something else has to begin: at a colon before a
blank, at a comment after a blank, at a bracket or comma inside brackets, at a marker of a
document, or at a line that is not indented deeper than the collection around it.
-/

namespace CqlSchema.Yaml

/-- Characters that structure flow collections. -/
def isFlowMark (c : Char) : Bool :=
  c = ',' || c = '[' || c = ']' || c = '{' || c = '}'

/-- Decides whether a colon at the start of a text ends a plain scalar. -/
def endsAtColon : List Char → Bool
  | ':' :: rest => startsBlank rest
  | _ => false

/-- Decides whether a colon at the start of a text stands directly before a flow mark or a
question mark. -/
def colonBeforeMark : List Char → Bool
  | ':' :: c :: _ => isFlowMark c || c = '?'
  | _ => false

/-- Reads a plain scalar. `inFlow` tells whether it stands inside brackets, and `indent` is the
least column of its further lines. Besides the text, the answer tells whether the scalar was
followed by a line break. -/
def readPlain (inFlow : Bool) (indent : Nat) (text : List Char) (gap : Gap) (cursor : Cursor) :
    Option (String × Bool × Cursor) :=
  let finished := some (String.ofList text.reverse, gap.folds, cursor)
  match _shape : cursor.rest with
  | [] => finished
  | c :: rest =>
    if isGap c then
      if gap.folds ∧ cursor.column < indent ∧ c = '\t' then none
      else readPlain inFlow indent text (gap.addBlank c) (cursor.drop 1)
    else if isBreak c then readPlain inFlow indent text (gap.addBreak c) (cursor.drop 1)
    else if !gap.isNone && !inFlow && cursor.column < indent then finished
    else if cursor.atMarker then finished
    else if !gap.isNone && c = '#' then finished
    else if inFlow && colonBeforeMark (c :: rest) then none
    else if endsAtColon (c :: rest) || inFlow && isFlowMark c then finished
    else readPlain inFlow indent (c :: (gap.folded ++ text)) .none (cursor.drop 1)
  termination_by cursor.rest.length
  decreasing_by
    all_goals simp only [Cursor.rest_drop, List.length_drop, _shape, List.length_cons]
    all_goals omega

end CqlSchema.Yaml
