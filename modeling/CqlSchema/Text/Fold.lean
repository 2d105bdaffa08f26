/-!
# Case folding

Unquoted names are compared after folding the ASCII capitals to small letters; every other
character stands for itself. Two texts are the same up to case when they are folded to one text.
-/

namespace CqlSchema.Text

/-- Folds the ASCII capitals of a text to small letters. -/
def fold (text : String) : String :=
  String.ofList (text.toList.map Char.toLower)

/-- Two texts that differ at most in the case of ASCII letters. -/
def sameFolded (left right : String) : Bool :=
  fold left == fold right

theorem sameFolded_iff {left right : String} :
    sameFolded left right = true ↔ fold left = fold right := by
  simp [sameFolded]

end CqlSchema.Text
