import CqlSchema.Proofs.DataType.SignatureText
import CqlSchema.Proofs.Statement.Separated
/-!
# Marks in a text

A text is balanced in two marks when it closes as often as it opens and never before it opens. A
fragment is what a statement may hold before its end: word characters, blanks, full stops and
commas, with balanced parentheses and balanced angle brackets around any of these. Fragments in a
row and fragments in marks are fragments, and so are the signatures of types and lists of fragments.
-/

namespace CqlSchema

/-- A text opens and closes equally often, and none of its beginnings closes more often than it
opens. -/
structure Balanced (opening closing : Char) (text : List Char) : Prop where
  /-- The first characters of the text close no more often than they open. -/
  opened : ∀ length, (text.take length).count closing ≤ (text.take length).count opening
  /-- The whole text closes as often as it opens. -/
  closed : text.count closing = text.count opening

namespace Balanced

variable {opening closing : Char} {text left right : List Char}

/-- A text without the two marks is balanced. -/
theorem of_not_mem (noOpening : opening ∉ text) (noClosing : closing ∉ text) :
    Balanced opening closing text where
  opened length := by
    have free : closing ∉ text.take length := fun member => noClosing (List.mem_of_mem_take member)
    rw [List.count_eq_zero.2 free]
    exact Nat.zero_le _
  closed := by rw [List.count_eq_zero.2 noOpening, List.count_eq_zero.2 noClosing]

/-- Balanced texts in a row are balanced. -/
theorem append (leftBalanced : Balanced opening closing left)
    (rightBalanced : Balanced opening closing right) :
    Balanced opening closing (left ++ right) where
  opened length := by
    rw [List.take_append, List.count_append, List.count_append]
    exact Nat.add_le_add (leftBalanced.opened _) (rightBalanced.opened _)
  closed := by
    rw [List.count_append, List.count_append, leftBalanced.closed, rightBalanced.closed]

/-- A balanced text in the two marks is balanced. -/
theorem enclose (balanced : Balanced opening closing text) (differ : opening ≠ closing) :
    Balanced opening closing (opening :: (text ++ [closing])) where
  opened length := by
    cases length with
    | zero => simp
    | succ length =>
      -- The first mark outweighs the last one, if that is reached at all.
      have last : ([closing].take (length - text.length)).count closing ≤ 1 :=
        Nat.le_trans List.count_le_length (List.length_take_le' _ _)
      have inside := balanced.opened length
      rw [List.take_succ_cons, List.take_append]
      simp only [List.count_cons, List.count_append, beq_self_eq_true, beq_iff_eq, differ,
        ↓reduceIte, Nat.add_zero]
      omega
  closed := by
    simp only [List.count_cons, List.count_append, List.count_nil, beq_self_eq_true, beq_iff_eq,
      differ, differ.symm, ↓reduceIte, balanced.closed]

/-- A balanced text between other characters is balanced. -/
theorem surround (balanced : Balanced opening closing text) {first last : Char}
    (noFirst : opening ≠ first ∧ closing ≠ first) (noLast : opening ≠ last ∧ closing ≠ last) :
    Balanced opening closing (first :: (text ++ [last])) := by
  have single : ∀ {c : Char}, opening ≠ c ∧ closing ≠ c → Balanced opening closing [c] := by
    intro c others
    exact of_not_mem (by simpa using others.1) (by simpa using others.2)
  exact (single noFirst).append (balanced.append (single noLast))

end Balanced

/-- Marks of a statement before its end, apart from the underscore of names. -/
def fragmentMarks : List Char :=
  [' ', '.', ',', '(', ')', '<', '>']

/-- Characters that may stand in a statement before its end and are no brackets. -/
def isPlainChar (c : Char) : Bool :=
  isWordChar c || c = ' ' || c = '.' || c = ','

/-- A text that may stand in a statement before its end. -/
structure Fragment (text : String) : Prop where
  /-- Every character is a word character or one of the marks. -/
  allowed : ∀ c ∈ text.toList, isWordChar c = true ∨ c ∈ fragmentMarks
  /-- Parentheses are balanced. -/
  parentheses : Balanced '(' ')' text.toList
  /-- Angle brackets are balanced. -/
  brackets : Balanced '<' '>' text.toList

namespace Fragment

variable {text left right : String}

/-- A text without any bracket is a fragment. -/
theorem of_plain (plain : text.toList.all isPlainChar = true) : Fragment text := by
  have free : ∀ {mark : Char}, isPlainChar mark = false → mark ∉ text.toList := by
    intro mark other member
    rw [List.all_eq_true.1 plain mark member] at other
    cases other
  refine ⟨fun c member => ?_, .of_not_mem (free (by decide)) (free (by decide)),
    .of_not_mem (free (by decide)) (free (by decide))⟩
  have inside := List.all_eq_true.1 plain c member
  simp only [isPlainChar, Bool.or_eq_true, decide_eq_true_eq] at inside
  rcases inside with ((word | rfl) | rfl) | rfl
  · exact .inl word
  · exact .inr (by decide)
  · exact .inr (by decide)
  · exact .inr (by decide)

/-- An identifier is a fragment. -/
theorem of_isIdentifier (identifier : isIdentifier text = true) : Fragment text :=
  of_plain (List.all_eq_true.2 fun c member => by
    simp [isPlainChar, (isIdentifier_word identifier).2 c member])

/-- Fragments in a row are a fragment. -/
theorem append (leftFragment : Fragment left) (rightFragment : Fragment right) :
    Fragment (left ++ right) where
  allowed c member := by
    rw [String.toList_append, List.mem_append] at member
    exact member.elim (leftFragment.allowed c) (rightFragment.allowed c)
  parentheses := by
    rw [String.toList_append]
    exact leftFragment.parentheses.append rightFragment.parentheses
  brackets := by
    rw [String.toList_append]
    exact leftFragment.brackets.append rightFragment.brackets

/-- The characters of a fragment between two marks are allowed. -/
theorem allowed_between (inner : Fragment text) {first last : Char}
    (firstMark : first ∈ fragmentMarks) (lastMark : last ∈ fragmentMarks) :
    ∀ c ∈ first :: (text.toList ++ [last]), isWordChar c = true ∨ c ∈ fragmentMarks := by
  intro c member
  simp only [List.mem_cons, List.mem_append, List.not_mem_nil, or_false] at member
  rcases member with rfl | inside | rfl
  · exact .inr firstMark
  · exact inner.allowed c inside
  · exact .inr lastMark

/-- A fragment in parentheses is a fragment. -/
theorem parenthesized (inner : Fragment text) : Fragment ("(" ++ text ++ ")") := by
  have shape : ("(" ++ text ++ ")").toList = '(' :: (text.toList ++ [')']) := by simp
  refine ⟨?_, ?_, ?_⟩
  · rw [shape]
    exact inner.allowed_between (by decide) (by decide)
  · rw [shape]
    exact inner.parentheses.enclose (by decide)
  · rw [shape]
    exact inner.brackets.surround (by decide) (by decide)

/-- A fragment in angle brackets is a fragment. -/
theorem bracketed (inner : Fragment text) : Fragment ("<" ++ text ++ ">") := by
  have shape : ("<" ++ text ++ ">").toList = '<' :: (text.toList ++ ['>']) := by simp
  refine ⟨?_, ?_, ?_⟩
  · rw [shape]
    exact inner.allowed_between (by decide) (by decide)
  · rw [shape]
    exact inner.parentheses.surround (by decide) (by decide)
  · rw [shape]
    exact inner.brackets.enclose (by decide)

/-- Fragments separated by commas and blanks are a fragment. -/
theorem commaSeparated {parts : List String} (each : ∀ part ∈ parts, Fragment part) :
    Fragment (commaSeparated parts) := by
  have comma : Fragment ", " := of_plain (by decide)
  have empty : Fragment "" := of_plain (by decide)
  induction parts with
  | nil => exact empty
  | cons part rest ih =>
    obtain ⟨first, others⟩ := List.forall_mem_cons.1 each
    cases rest with
    | nil => exact first
    | cons next rest =>
      show Fragment (", ".intercalate (part :: next :: rest))
      rw [String.intercalate_cons_cons]
      exact (first.append comma).append (ih others)

end Fragment

/-! ## Signatures -/

/-- A signature is a fragment where the names of user defined types are identifiers. -/
theorem DataType.fragment_signature {type : DataType} (named : type.NamedByIdentifiers) :
    Fragment type.signature := by
  -- Every wrapper is a word in front of angle brackets.
  have wrapped : ∀ (word : String) {inner : String},
      word.toList.all isPlainChar = true → Fragment inner →
        Fragment (word ++ "<" ++ inner ++ ">") := by
    intro word inner plain fragment
    have whole := (Fragment.of_plain plain).append fragment.bracketed
    simpa only [String.append_assoc] using whole
  have frozen : ∀ (flag : Bool) {inner : String}, Fragment inner →
      Fragment (wrapFrozen flag inner) := by
    intro flag inner fragment
    cases flag with
    | false => exact fragment
    | true => exact wrapped "frozen" (by decide) fragment
  induction type with
  | scalar flag base => exact frozen flag (.of_plain (by cases base <;> decide))
  | list flag item ih =>
    have inside := ih fun handle mentioned => named handle (.list mentioned)
    exact frozen flag (wrapped "list" (by decide) inside)
  | set flag item ih =>
    have inside := ih fun handle mentioned => named handle (.set mentioned)
    exact frozen flag (wrapped "set" (by decide) inside)
  | map flag key value keyIh valueIh =>
    have inKey := keyIh fun handle mentioned => named handle (.mapKey mentioned)
    have inValue := valueIh fun handle mentioned => named handle (.mapValue mentioned)
    have comma : Fragment "," := .of_plain (by decide)
    refine frozen flag ?_
    have whole := wrapped "map" (by decide) ((inKey.append comma).append inValue)
    rw [← String.append_assoc, ← String.append_assoc] at whole
    exact whole
  | user flag handle => exact frozen flag (.of_isIdentifier (named handle .user))

end CqlSchema
