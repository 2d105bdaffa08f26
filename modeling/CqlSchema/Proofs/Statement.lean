import CqlSchema.Statement
import Mathlib.Data.List.TakeWhile
/-!
# What the text of a statement tells

The text of every statement starts in the same way: words that say what is created, a keyspace,
a full stop, a name and an opening bracket. Where the keyspace and the name are identifiers,
neither can hold the mark after it, so the text tells all of these parts.
-/

namespace CqlSchema

/-- Marks other than the underscore do not stand in identifiers. -/
theorem not_mem_of_isIdentifier {text : String} {mark : Char}
    (identifier : isIdentifier text = true) (isMark : isWordChar mark = false) :
    mark ∉ text.toList := by
  intro member
  have word := (isIdentifier_word identifier).2 mark member
  rw [isMark] at word
  cases word

/-- A mark that stands in neither of two texts separates each of them from what follows it. -/
theorem eq_of_append_mark {mark : Char} {left right before after : List Char}
    (leftFree : mark ∉ left) (rightFree : mark ∉ right)
    (same : left ++ mark :: before = right ++ mark :: after) : left = right ∧ before = after := by
  -- Each front is what precedes the first mark, so both can be cut off in the same way.
  have cut : ∀ (text rest : List Char), mark ∉ text →
      (text ++ mark :: rest).takeWhile (fun c => decide (c ≠ mark)) = text := by
    intro text rest free
    have inside : ∀ c ∈ text, decide (c ≠ mark) = true := by
      intro c member
      exact decide_eq_true (fun equal => free (equal ▸ member))
    rw [List.takeWhile_append_of_pos inside, List.takeWhile_cons_of_neg (by simp),
      List.append_nil]
  have parts : left = right := by
    rw [← cut left before leftFree, same, cut right after rightFree]
  subst parts
  have rests := List.append_cancel_left same
  exact ⟨rfl, (List.cons.inj rests).2⟩

namespace Statement

/-- Words that say what a statement creates. -/
def opening : Statement → String
  | .createType .. => "CREATE TYPE IF NOT EXISTS "
  | .createTable .. => "CREATE TABLE IF NOT EXISTS "

/-- Keyspace of what a statement creates. -/
def keyspace : Statement → String
  | .createType keyspace _ | .createTable keyspace _ => keyspace

/-- Name of what a statement creates. -/
def name : Statement → String
  | .createType _ type => type.name
  | .createTable _ table => table.name

/-- Text of a statement after the bracket that follows the name. -/
def body : Statement → String
  | .createType _ type => ", ".intercalate (type.fields.map UserType.fieldText) ++ ");"
  | .createTable _ table =>
    commaSeparated table.columnTexts ++ ") " ++ table.primaryKeyText ++ table.orderText ++ ";"

/-- The text of a statement is made of its parts. -/
theorem text_eq (statement : Statement) :
    statement.text = statement.opening ++ statement.keyspace ++ "." ++ statement.name ++ "(" ++
      statement.body := by
  cases statement with
  | createType keyspace type =>
    have written : text (.createType keyspace type) = "CREATE TYPE IF NOT EXISTS " ++ keyspace ++
        "." ++ type.definition ++ ";" := rfl
    have closing : ");" = ")" ++ ";" := rfl
    simp only [written, opening, Statement.keyspace, name, body, UserType.definition, closing,
      String.append_assoc]
  | createTable keyspace table =>
    have written : text (.createTable keyspace table) = "CREATE TABLE IF NOT EXISTS " ++
        keyspace ++ "." ++ table.name ++ "(" ++ commaSeparated table.columnTexts ++ ") " ++
        table.primaryKeyText ++ table.orderText ++ ";" := rfl
    simp only [written, opening, Statement.keyspace, name, body, String.append_assoc]

/-- Characters of a statement, with the marks after its keyspace and after its name. -/
theorem toList_text (statement : Statement) :
    statement.text.toList = statement.opening.toList ++
      (statement.keyspace.toList ++ '.' :: (statement.name.toList ++ '(' ::
        statement.body.toList)) := by
  have stop : ".".toList = ['.'] := rfl
  have bracket : "(".toList = ['('] := rfl
  simp only [text_eq, String.toList_append, stop, bracket, List.append_assoc, List.cons_append,
    List.nil_append]

/-- The keyspace and the name of a statement are identifiers. -/
structure WellNamed (statement : Statement) : Prop where
  /-- The keyspace is an identifier. -/
  keyspace : isIdentifier statement.keyspace = true
  /-- The name is an identifier. -/
  name : isIdentifier statement.name = true

/-- The first words of a statement tell those for types from those for tables. -/
theorem opening_append_inj {first second : Statement} {left right : List Char}
    (same : first.opening.toList ++ left = second.opening.toList ++ right) :
    first.opening = second.opening ∧ left = right := by
  have differ : ∀ before after : List Char, "CREATE TYPE IF NOT EXISTS ".toList ++ before ≠
      "CREATE TABLE IF NOT EXISTS ".toList ++ after := by
    intro before after equal
    have letters := congrArg (·[8]?) equal
    simp at letters
  cases first with
  | createType =>
    cases second with
    | createType => exact ⟨rfl, List.append_cancel_left same⟩
    | createTable => exact absurd same (differ _ _)
  | createTable =>
    cases second with
    | createType => exact absurd same.symm (differ _ _)
    | createTable => exact ⟨rfl, List.append_cancel_left same⟩

/-- Well-named statements with the same text create the same kind of thing in the same keyspace,
under the same name and with the same body. -/
theorem WellNamed.parts_of_text_eq {first second : Statement} (firstNamed : first.WellNamed)
    (secondNamed : second.WellNamed) (same : first.text = second.text) :
    first.opening = second.opening ∧ first.keyspace = second.keyspace ∧
      first.name = second.name ∧ first.body = second.body := by
  have letters := congrArg String.toList same
  rw [toList_text, toList_text] at letters
  obtain ⟨sameOpening, afterOpening⟩ := opening_append_inj letters
  have stop : isWordChar '.' = false := by decide
  have bracket : isWordChar '(' = false := by decide
  obtain ⟨sameKeyspace, afterKeyspace⟩ :=
    eq_of_append_mark (not_mem_of_isIdentifier firstNamed.keyspace stop)
      (not_mem_of_isIdentifier secondNamed.keyspace stop) afterOpening
  obtain ⟨sameName, sameBody⟩ :=
    eq_of_append_mark (not_mem_of_isIdentifier firstNamed.name bracket)
      (not_mem_of_isIdentifier secondNamed.name bracket) afterKeyspace
  exact ⟨sameOpening, String.toList_inj.1 sameKeyspace, String.toList_inj.1 sameName,
    String.toList_inj.1 sameBody⟩

end Statement

end CqlSchema
