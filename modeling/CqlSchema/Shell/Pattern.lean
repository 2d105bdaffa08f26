/-!
# Patterns

A pattern matches a whole text: an asterisk stands for any characters, a question mark for one,
and brackets for one of a set. Quoted characters stand for themselves.
-/

namespace CqlSchema.Shell

/-- Parts of a pattern. -/
inductive Pattern where
  | character (c : Char)
  | any
  | one
  | oneOf (isNegated : Bool) (set : List Char)
  deriving Repr, DecidableEq

namespace Pattern

/-- Characters of a set in which a hyphen between two characters stands for a range. -/
def ranges : List Char → List Char
  | low :: '-' :: high :: rest =>
    ((List.range (high.toNat + 1 - low.toNat)).map fun step => Char.ofNat (low.toNat + step)) ++
      ranges rest
  | c :: rest => c :: ranges rest
  | [] => []

/-- Pattern that characters write; each comes with a flag that tells whether it was quoted. -/
def ofMarked (fuel : Nat) (characters : List (Bool × Char)) : List Pattern :=
  match fuel, characters with
  | fuel + 1, (false, '*') :: rest => .any :: ofMarked fuel rest
  | fuel + 1, (false, '?') :: rest => .one :: ofMarked fuel rest
  | fuel + 1, (false, '[') :: rest =>
    let inside := rest.takeWhile (·.2 ≠ ']')
    if inside.isEmpty || inside.length = rest.length then
      .character '[' :: ofMarked fuel rest
    else
      let set := inside.map Prod.snd
      let isNegated := set.head? = some '!'
      .oneOf isNegated (ranges (if isNegated then set.drop 1 else set)) ::
        ofMarked fuel (rest.drop (inside.length + 1))
  | fuel + 1, (_, c) :: rest => .character c :: ofMarked fuel rest
  | _, _ => []

/-- Decides whether a part other than an asterisk matches a character. -/
def accepts (c : Char) : Pattern → Bool
  | .character expected => c = expected
  | .any => true
  | .one => true
  | .oneOf isNegated set => set.contains c != isNegated

/-- Decides whether a pattern matches a text. -/
def matchesAll : List Pattern → List Char → Bool
  | [], text => text.isEmpty
  | .any :: rest, [] => matchesAll rest []
  | .any :: rest, c :: text => matchesAll rest (c :: text) || matchesAll (.any :: rest) text
  | _ :: _, [] => false
  | part :: rest, c :: text => accepts c part && matchesAll rest text

end Pattern

end CqlSchema.Shell
