import CqlSchema.Json.Record
import CqlSchema.Proofs.Json.Reading
/-!
# Reading values with one item a line

Line breaks and indentation are blanks, which are cut into no tokens, so the layout with one item a
line is cut into the same tokens as the compact one and is read as the same value. The decimal
digits of a natural number are a numeral, so the numbers that are written for settings are read as
well.
-/

namespace CqlSchema.Json

/-! ## Blanks -/

/-- Blanks are cut into no tokens. -/
theorem leads_blanks {blanks : List Char} (spaces : ∀ c ∈ blanks, Token.isSpace c = true) :
    Leads blanks [] := by
  intro rest
  induction blanks with
  | nil => exact Option.map_id'.symm
  | cons c blanks ih =>
    obtain ⟨space, others⟩ := List.forall_mem_cons.1 spaces
    rw [List.cons_append, Token.ofChars]
    simp only [space, if_true]
    exact ih others

/-- Blanks in front of a line that is indented. -/
def margin (level : Nat) : List Char :=
  '\n' :: List.replicate (2 * level) ' '

/-- A margin is cut into no tokens. -/
theorem leads_margin (level : Nat) : Leads (margin level) [] := by
  refine leads_blanks fun c member => ?_
  rcases List.mem_cons.1 member with rfl | blank
  · rfl
  · rw [List.eq_of_mem_replicate blank]
    rfl

/-- A margin ends the word or the number before it. -/
theorem ends_margin (level : Nat) (rest : List Char) : Ends (margin level ++ rest) := by
  intro c head
  obtain rfl := Option.some.inj head
  exact ⟨by decide, by decide⟩

/-! ## Blocks -/

/-- Lines between two brackets are spelled where each of them is. -/
theorem spells_block {first last : String} {opener closer : Char}
    (firstShape : first.toList = [opener]) (lastShape : last.toList = [closer])
    (opens : IsMark opener) (closes : IsMark closer) (level : Nat) {lines : List String}
    {rows : List (List Token)}
    (each : List.Forall₂ (fun text row => Spells text.toList row) lines rows) :
    Spells (block level first last lines).toList
      (.mark opener :: (joined rows ++ [.mark closer])) := by
  cases filled : lines.isEmpty with
  | true =>
    obtain rfl := List.isEmpty_iff.1 filled
    cases each
    have bare : Spells [] [] := fun rest _ => Option.map_id'.symm
    rw [block, filled, if_pos rfl, String.toList_append, firstShape, lastShape]
    exact spells_bracketed opens closes bare
  | false =>
    have shape : (block level first last lines).toList = [opener] ++ (margin (level + 1) ++
        ((("," ++ ("\n" ++ indentation (level + 1))).intercalate lines).toList ++
          (margin level ++ [closer]))) := by
      rw [block, filled]
      simp [firstShape, lastShape, margin, indentation]
    have comma : IsMark ',' := by decide
    have separator : ("," ++ ("\n" ++ indentation (level + 1))).toList =
        [','] ++ margin (level + 1) := by
      simp [margin, indentation]
    have texts := spells_joined (separator ▸ (leads_mark comma).append (leads_margin (level + 1)))
      (fun rest => by rw [separator]; exact comma.ends _) (by rw [separator]; simp) each
    have tail : Leads (margin level ++ [closer]) ([] ++ [.mark closer]) :=
      (leads_margin level).append (leads_mark closes)
    have inside := texts.append_leads tail (ends_margin level _) (List.cons_ne_nil _ _)
    rw [shape]
    exact ((leads_mark opens).append ((leads_margin (level + 1)).append inside)).spells

/-- Items in the layout with one item a line are their texts at the same level. -/
theorem prettyItems_eq_map (level : Nat) (items : List Json) :
    prettyItems level items = items.map (prettyAt level) := by
  induction items with
  | nil => rfl
  | cons item items ih => rw [prettyItems, ih, List.map_cons]

/-- Members in the layout with one item a line are their keys and their texts at the same level. -/
theorem prettyMembers_eq_map (level : Nat) (members : List (String × Json)) :
    prettyMembers level (members.map fun entry => member entry.1 entry.2) =
      members.map fun entry => quoted (quote entry.1) ++ ": " ++ entry.2.prettyAt level := by
  induction members with
  | nil => rfl
  | cons entry members ih =>
    rw [List.map_cons, List.map_cons, ← ih]
    rfl

/-- A written value is cut into its tokens in the layout with one item a line, at any level. -/
theorem IsWritten.spells_prettyAt {value : Json} (written : IsWritten value) (level : Nat) :
    Spells (value.prettyAt level).toList value.tokens := by
  induction written generalizing level with
  -- A value on one line has the same text in both layouts.
  | null => exact IsWritten.null.spells_compact
  | bool value => exact (IsWritten.bool value).spells_compact
  | number numeral => exact numeral.spells
  | text value => exact (leads_quoted value).spells
  | @array items each ih =>
    have texts := spells_items fun item inside => ih item inside (level + 1)
    rw [prettyAt, prettyItems_eq_map]
    exact spells_block rfl rfl (by decide) (by decide) level texts
  | @ofMembers members each ih =>
    have colon : IsMark ':' := by decide
    have leads : Leads ": ".toList [.mark ':'] :=
      (leads_mark colon).append (leads_blanks (List.forall_mem_singleton.2 rfl))
    have texts := spells_members leads fun entry inside => ih entry inside (level + 1)
    rw [Json.ofMembers, prettyAt, prettyMembers_eq_map]
    exact spells_block rfl rfl (by decide) (by decide) level texts

/-- A written value is read from its layout with one item a line. -/
theorem IsWritten.parse?_pretty {value : Json} (written : IsWritten value) :
    parse? value.pretty = some value :=
  written.parse?_of_spells (written.spells_prettyAt 0)

/-! ## Numbers -/

/-- Digits of positive numbers below ten are not the zero. -/
theorem digitChar_ne_zero : ∀ digit < 10, 0 < digit → digit.digitChar ≠ '0' := by
  decide

/-- The digits of a positive number do not start with a zero. -/
theorem exists_digits_of_pos {number : Nat} (positive : 0 < number) :
    ∃ first rest, Nat.toDigits 10 number = first :: rest ∧ first ≠ '0' := by
  induction number using Nat.strongRecOn with
  | ind number ih =>
    rw [Nat.toDigits_eq_if (by decide)]
    split
    · rename_i small
      exact ⟨number.digitChar, [], rfl, digitChar_ne_zero number small positive⟩
    · rename_i large
      obtain ⟨first, rest, shape, notZero⟩ := ih (number / 10) (by omega) (by omega)
      exact ⟨first, rest ++ [(number % 10).digitChar], by rw [shape]; rfl, notZero⟩

/-- An integer part without a leading zero takes all its digits. -/
theorem dropInteger?_digits {first : Char} {rest : List Char} (notZero : first ≠ '0')
    (digits : ∀ c ∈ first :: rest, c.isDigit = true) :
    Token.dropInteger? (first :: rest) = some [] := by
  obtain ⟨firstDigit, others⟩ := List.forall_mem_cons.1 digits
  have taken : rest.dropWhile Char.isDigit = [] := by
    have run : (rest ++ []).dropWhile Char.isDigit = [] :=
      (span_run others fun c head => by cases head).2
    rwa [List.append_nil] at run
  rw [Token.dropInteger?, Token.dropDigits?, if_pos firstDigit, taken]
  rintro rest same
  exact notZero (List.cons.inj same).1

/-- The digits of a number are a number as it is written. -/
theorem isNumber_toDigits (number : Nat) : Token.isNumber (Nat.toDigits 10 number) = true := by
  rcases Nat.eq_zero_or_pos number with rfl | positive
  · decide
  · obtain ⟨first, rest, shape, notZero⟩ := exists_digits_of_pos positive
    have digits : ∀ c ∈ first :: rest, c.isDigit = true := by
      intro c member
      exact Nat.isDigit_of_mem_toDigits (by decide) (by decide) (shape ▸ member)
    have notMinus : first ≠ '-' := by
      rintro rfl
      exact absurd (digits _ List.mem_cons_self) (by decide)
    have unsigned : Token.dropSign (first :: rest) = first :: rest := by
      rw [Token.dropSign]
      rintro rest same
      exact notMinus (List.cons.inj same).1
    rw [shape, Token.isNumber, unsigned, dropInteger?_digits notZero digits]
    decide

/-- A natural number is printed with digits only. -/
theorem isDigit_of_mem_repr {number : Nat} {c : Char} (member : c ∈ number.repr.toList) :
    c.isDigit = true := by
  rw [Nat.repr_eq_ofList_toDigits, String.toList_ofList] at member
  exact Nat.isDigit_of_mem_toDigits (by decide) (by decide) member

/-- No digit is a letter. -/
theorem isAlpha_of_isDigit {c : Char} (digit : c.isDigit = true) : c.isAlpha = false := by
  have small : c.val ≤ 57 := of_decide_eq_true (Bool.and_eq_true_iff.1 digit).2
  have below {bound : UInt32} (above : 57 < bound) : ¬ bound ≤ c.val := fun large =>
    absurd (UInt32.lt_of_lt_of_le above (UInt32.le_trans large small)) (UInt32.lt_irrefl 57)
  have notUpper : c.isUpper = false := decide_eq_false fun upper => below (by decide) upper.1
  have notLower : c.isLower = false :=
    Bool.and_eq_false_iff.2 (.inl (decide_eq_false (below (by decide))))
  exact Bool.or_eq_false_iff.2 ⟨notUpper, notLower⟩

/-- The decimal digits of a natural number are cut as one number. -/
theorem isNumeral_repr (number : Nat) : IsNumeral number.repr := by
  have shape : number.repr.toList = Nat.toDigits 10 number := by
    rw [Nat.repr_eq_ofList_toDigits, String.toList_ofList]
  refine ⟨shape ▸ isNumber_toDigits number, fun c member => ?_, fun c head => ?_⟩
  · rw [Token.isNumeric, isDigit_of_mem_repr member]
    rfl
  · exact isAlpha_of_isDigit (isDigit_of_mem_repr (List.mem_of_head? head))

end CqlSchema.Json
