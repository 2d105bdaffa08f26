import CqlSchema.Proofs.Json.Literal
import CqlSchema.Proofs.Outcome
/-!
# Reading printed values

A value is printed as a row of tokens, and the reader makes the value of that row again. Only what
stands behind a word or a number can change how it is cut, and a printed value has marks there. So
a value whose strings are written for texts and whose numbers are numerals is read from its compact
layout, and no other value has the same layout.
-/

namespace CqlSchema.Json

/-! ## Tokens of a value -/

/-- Rows of tokens with commas between them. -/
def joined : List (List Token) → List Token
  | [] => []
  | row :: rows => row ++ rows.flatMap (.mark ',' :: ·)

mutual

/-- Tokens with which a value is printed. -/
def tokens : Json → List Token
  | .null => [.word "null"]
  | .bool value => [.word (boolText value)]
  | .number written => [.number written]
  | .string literal => [.string literal]
  | .array items => .mark '[' :: (joined (itemTokens items) ++ [.mark ']'])
  | .object members => .mark '\x7b' :: (joined (memberTokens members) ++ [.mark '\x7d'])

/-- Tokens of every item. -/
def itemTokens : List Json → List (List Token)
  | [] => []
  | item :: rest => item.tokens :: itemTokens rest

/-- Tokens of every member. -/
def memberTokens : List (String × Json) → List (List Token)
  | [] => []
  | (key, value) :: rest => (.string key :: .mark ':' :: value.tokens) :: memberTokens rest

end

/-- The tokens of no value start with a closing bracket. -/
theorem tokens_ne_closing (value : Json) (rest more : List Token) :
    value.tokens ++ rest ≠ .mark ']' :: more := by
  intro same
  cases value <;> simp [tokens] at same

/-! ## Values that are read back -/

/-- The reader makes a value of its tokens, inside any frames and whatever follows. -/
def ReadBack (value : Json) : Prop :=
  ∀ frames rest, readValue frames (value.tokens ++ rest) = closeValue value frames rest

/-- Items that are read back complete the array around a first one. -/
theorem closeValue_items {items : List Json} (each : ∀ item ∈ items, ReadBack item)
    (first : Json) (before : List Json) (frames : List Frame) (rest : List Token) :
    closeValue first (.array before :: frames)
        ((itemTokens items).flatMap (.mark ',' :: ·) ++ .mark ']' :: rest) =
      closeValue (.array (before ++ first :: items)) frames rest := by
  induction items generalizing first before with
  | nil => rw [itemTokens, List.flatMap_nil, List.nil_append, closeValue]
  | cons next items ih =>
    obtain ⟨own, others⟩ := List.forall_mem_cons.1 each
    rw [itemTokens, List.flatMap_cons, List.append_assoc, List.cons_append, closeValue, own,
      ih others, List.append_assoc]
    rfl

/-- Members whose values are read back complete the object around a first one. -/
theorem closeValue_members {members : List (String × Json)}
    (each : ∀ member ∈ members, ReadBack member.2) (key : String) (first : Json)
    (before : List (String × Json)) (frames : List Frame) (rest : List Token) :
    closeValue first (.object before key :: frames)
        ((memberTokens members).flatMap (.mark ',' :: ·) ++ .mark '\x7d' :: rest) =
      closeValue (.object (before ++ (key, first) :: members)) frames rest := by
  induction members generalizing key first before with
  | nil => rw [memberTokens, List.flatMap_nil, List.nil_append, closeValue]
  | cons next members ih =>
    obtain ⟨nextKey, nextValue⟩ := next
    obtain ⟨own, others⟩ := List.forall_mem_cons.1 each
    rw [memberTokens, List.flatMap_cons, List.append_assoc, List.cons_append, List.cons_append,
      List.cons_append, closeValue, own, ih others, List.append_assoc]
    rfl

/-! ## Values as they are written -/

/-- Texts that are cut as one number. -/
structure IsNumeral (written : String) : Prop where
  /-- The text follows the grammar of numbers. -/
  valid : Token.isNumber written.toList = true
  /-- All its characters may occur in a number. -/
  numeric : ∀ c ∈ written.toList, Token.isNumeric c = true
  /-- It does not start like a word. -/
  starts : ∀ c, written.toList.head? = some c → c.isAlpha = false

/-- Values whose strings and keys are written for texts and whose numbers are numerals. -/
inductive IsWritten : Json → Prop
  | null : IsWritten .null
  | bool (value : Bool) : IsWritten (.bool value)
  | number {written : String} (numeral : IsNumeral written) : IsWritten (.number written)
  | text (value : String) : IsWritten (.text value)
  | array {items : List Json} (each : ∀ item ∈ items, IsWritten item) : IsWritten (.array items)
  | ofMembers {members : List (String × Json)} (each : ∀ member ∈ members, IsWritten member.2) :
      IsWritten (.ofMembers members)

/-- Every written value is read back from its tokens. -/
theorem IsWritten.readBack {value : Json} (written : IsWritten value) : ReadBack value := by
  intro frames rest
  induction written generalizing frames rest with
  | null => rw [tokens, List.singleton_append, readValue]
  | bool value =>
    cases value with
    | false =>
      show readValue frames (.word "false" :: rest) = _
      rw [readValue]
    | true =>
      show readValue frames (.word "true" :: rest) = _
      rw [readValue]
  | number numeral => rw [tokens, List.singleton_append, readValue]
  | text value => rw [Json.text, tokens, List.singleton_append, readValue]
  | @array items each ih =>
    cases items with
    | nil =>
      show readValue frames (.mark '[' :: .mark ']' :: rest) = _
      rw [readValue]
    | cons first items =>
      obtain ⟨own, others⟩ := List.forall_mem_cons.1 ih
      rw [tokens, itemTokens, joined, List.cons_append, List.append_assoc, List.append_assoc,
        readValue, own, List.singleton_append, closeValue_items others]
      · rfl
      · exact tokens_ne_closing first _
  | @ofMembers members each ih =>
    cases members with
    | nil =>
      show readValue frames (.mark '\x7b' :: .mark '\x7d' :: rest) = _
      rw [readValue]
      rfl
    | cons first members =>
      obtain ⟨key, value⟩ := first
      obtain ⟨own, others⟩ := List.forall_mem_cons.1 ih
      have written : ∀ other ∈ members.map fun entry => member entry.1 entry.2,
          ReadBack other.2 := by
        intro other inside
        obtain ⟨entry, inMembers, rfl⟩ := List.mem_map.1 inside
        exact others entry inMembers
      have shape : (Json.ofMembers ((key, value) :: members)).tokens ++ rest =
          .mark '\x7b' :: .string (quote key) :: .mark ':' :: (value.tokens ++
            ((memberTokens (members.map fun entry => member entry.1 entry.2)).flatMap
              (.mark ',' :: ·) ++ .mark '\x7d' :: rest)) := by
        simp [Json.ofMembers, Json.member, tokens, memberTokens, joined]
      rw [shape, readValue, own, closeValue_members written]
      rfl

/-! ## Texts that are cut into tokens -/

/-- A text that ends the word or the number before it. -/
def Ends (text : List Char) : Prop :=
  ∀ c, text.head? = some c → c.isAlpha = false ∧ Token.isNumeric c = false

/-- A text is cut into tokens whatever follows it. -/
def Leads (text : List Char) (row : List Token) : Prop :=
  ∀ rest, Token.ofChars (text ++ rest) = (Token.ofChars rest).map (row ++ ·)

/-- A text is cut into tokens where what follows it ends words and numbers. -/
def Spells (text : List Char) (row : List Token) : Prop :=
  ∀ rest, Ends rest → Token.ofChars (text ++ rest) = (Token.ofChars rest).map (row ++ ·)

variable {text more : List Char} {row others : List Token}

/-- Rows in front of an outcome can be joined. -/
theorem map_append_map (row others : List Token) (outcome : Option (List Token)) :
    (outcome.map (others ++ ·)).map (row ++ ·) = outcome.map (row ++ others ++ ·) := by
  cases outcome with
  | none => rfl
  | some later => exact congrArg some (List.append_assoc row others later).symm

/-- What is cut whatever follows is cut in front of any text. -/
theorem Leads.spells (leads : Leads text row) : Spells text row :=
  fun rest _ => leads rest

/-- Texts that are cut whatever follows can be joined. -/
theorem Leads.append (first : Leads text row) (second : Leads more others) :
    Leads (text ++ more) (row ++ others) := by
  intro rest
  rw [List.append_assoc, first, second, map_append_map]

/-- What is cut whatever follows can stand in front of any text. -/
theorem Leads.append_spells (first : Leads text row) (second : Spells more others) :
    Spells (text ++ more) (row ++ others) := by
  intro rest ends
  rw [List.append_assoc, first, second rest ends, map_append_map]

/-- A text can stand in front of one that ends words and numbers. -/
theorem Spells.append (first : Spells text row) (second : Spells more others) (stops : Ends more)
    (filled : more ≠ []) : Spells (text ++ more) (row ++ others) := by
  intro rest ends
  have stopsThere : Ends (more ++ rest) := by
    cases more with
    | nil => exact absurd rfl filled
    | cons c more => exact stops
  rw [List.append_assoc, first _ stopsThere, second rest ends, map_append_map]

/-- A text in front of one that is cut whatever follows is cut whatever follows. -/
theorem Spells.append_leads (first : Spells text row) (second : Leads more others)
    (ends : Ends more) (filled : more ≠ []) : Leads (text ++ more) (row ++ others) := by
  intro rest
  have stops : Ends (more ++ rest) := by
    cases more with
    | nil => exact absurd rfl filled
    | cons c more => exact ends
  rw [List.append_assoc, first _ stops, second, map_append_map]

/-- Marks are neither blanks nor quotes, and stand in no word and no number. -/
def IsMark (c : Char) : Prop :=
  Token.isSpace c = false ∧ c ≠ '\x22' ∧ c.isAlpha = false ∧ Token.isNumeric c = false

instance (c : Char) : Decidable (IsMark c) :=
  inferInstanceAs (Decidable (_ ∧ _ ∧ _ ∧ _))

/-- A mark ends the word or the number before it. -/
theorem IsMark.ends {c : Char} (isMark : IsMark c) (rest : List Char) : Ends (c :: rest) := by
  intro d head
  obtain rfl := Option.some.inj head
  exact isMark.2.2

/-- A mark is a token whatever follows it. -/
theorem leads_mark {c : Char} (isMark : IsMark c) : Leads [c] [.mark c] := by
  obtain ⟨notSpace, notQuote, notAlpha, notNumeric⟩ := isMark
  intro rest
  rw [List.singleton_append, Token.ofChars]
  simp only [notSpace, notQuote, notAlpha, notNumeric, Bool.false_eq_true, if_false]
  rfl

/-- A literal that is written for a text is a token whatever follows it. -/
theorem leads_quoted (value : String) :
    Leads (quoted (quote value)).toList [.string (quote value)] := by
  intro rest
  have shape : (quoted (quote value)).toList ++ rest =
      '\x22' :: ((quote value).toList ++ '\x22' :: rest) := by
    simp [quoted]
  rw [shape, Token.ofChars, if_neg (by decide), if_pos rfl]
  have split := splitLiteral_quote value rest
  split
  · rename_i missing
    rw [split] at missing
    cases missing
  · rename_i inside after found
    obtain ⟨rfl, rfl⟩ := Prod.mk.inj (Option.some.inj (split.symm.trans found))
    rw [String.ofList_toList]
    rfl

/-- A run of characters that pass a test ends where one follows that does not. -/
theorem span_run {test : Char → Bool} {run rest : List Char} (inside : ∀ c ∈ run, test c = true)
    (stops : ∀ c, rest.head? = some c → test c = false) :
    (run ++ rest).takeWhile test = run ∧ (run ++ rest).dropWhile test = rest := by
  rw [List.takeWhile_append_of_pos inside, List.dropWhile_append_of_pos inside]
  cases rest with
  | nil => exact ⟨List.append_nil run, rfl⟩
  | cons c rest => simp [stops c rfl]

/-- No letter and no character of a number is a blank or a quote. -/
theorem not_space_or_quote {c : Char} (inside : c.isAlpha = true ∨ Token.isNumeric c = true) :
    Token.isSpace c = false ∧ c ≠ '\x22' := by
  constructor
  · rw [Bool.eq_false_iff]
    intro space
    simp only [Token.isSpace, Bool.or_eq_true, decide_eq_true_eq] at space
    rcases space with ((rfl | rfl) | rfl) | rfl <;> revert inside <;> decide
  · rintro rfl
    revert inside
    decide

/-- A word of letters is a token where what follows it ends words. -/
theorem spells_word {word : String} (filled : word.toList ≠ [])
    (letters : word.toList.all Char.isAlpha = true) : Spells word.toList [.word word] := by
  intro rest ends
  obtain ⟨c, tail, shape⟩ := List.exists_cons_of_ne_nil filled
  rw [shape, List.all_eq_true] at letters
  obtain ⟨first, inTail⟩ := List.forall_mem_cons.1 letters
  obtain ⟨notSpace, notQuote⟩ := not_space_or_quote (.inl first)
  obtain ⟨taken, left⟩ := span_run inTail fun d head => (ends d head).1
  have written : String.ofList (c :: tail) = word := by rw [← shape, String.ofList_toList]
  rw [shape, List.cons_append, Token.ofChars]
  simp only [notSpace, notQuote, first, taken, left, written, Bool.false_eq_true, if_false, if_true]
  rfl

/-- A numeral is a token where what follows it ends numbers. -/
theorem IsNumeral.spells {written : String} (numeral : IsNumeral written) :
    Spells written.toList [.number written] := by
  intro rest ends
  have filled : written.toList ≠ [] := by
    intro empty
    have valid := numeral.valid
    rw [empty] at valid
    exact absurd valid (by decide)
  obtain ⟨c, tail, shape⟩ := List.exists_cons_of_ne_nil filled
  have numeric := numeral.numeric
  have valid := numeral.valid
  rw [shape] at numeric valid
  obtain ⟨first, inTail⟩ := List.forall_mem_cons.1 numeric
  have notAlpha : c.isAlpha = false := numeral.starts c (by rw [shape]; rfl)
  obtain ⟨notSpace, notQuote⟩ := not_space_or_quote (.inr first)
  obtain ⟨taken, left⟩ := span_run inTail fun d head => (ends d head).2
  have same : String.ofList (c :: tail) = written := by rw [← shape, String.ofList_toList]
  rw [shape, List.cons_append, Token.ofChars]
  simp only [notSpace, notQuote, notAlpha, first, taken, left, same, valid, Bool.false_eq_true,
    if_false, if_true]
  rfl

/-- Rows of tokens are spelled by their texts with a separator between them that is cut as a
comma. -/
theorem spells_joined {separator : String} (leads : Leads separator.toList [.mark ','])
    (ends : ∀ rest, Ends (separator.toList ++ rest)) (filled : separator.toList ≠ [])
    {texts : List String} {rows : List (List Token)}
    (each : List.Forall₂ (fun text row => Spells text.toList row) texts rows) :
    Spells (separator.intercalate texts).toList (joined rows) := by
  rw [String.toList_intercalate]
  induction each with
  | nil => exact fun rest _ => Option.map_id'.symm
  | @cons text row texts rows first later ih =>
    cases later with
    | nil => simpa [joined] using first
    | @cons next nextRow texts rows second later =>
      have shape : joined (row :: nextRow :: rows) =
          row ++ ([.mark ','] ++ joined (nextRow :: rows)) := rfl
      rw [shape, List.map_cons, List.map_cons, List.intercalate_cons_cons, List.append_assoc]
      exact first.append (leads.append_spells ih) (ends _)
        (List.append_ne_nil_of_left_ne_nil filled _)

/-- A text between brackets is spelled where the text inside is. -/
theorem spells_bracketed {opener closer : Char} (opens : IsMark opener) (closes : IsMark closer)
    (inside : Spells text row) :
    Spells (opener :: (text ++ [closer])) (.mark opener :: (row ++ [.mark closer])) := by
  have tail := inside.append_leads (leads_mark closes) (closes.ends []) (List.cons_ne_nil _ _)
  exact ((leads_mark opens).append tail).spells

/-- Texts with commas between them are spelled where each of them is. -/
theorem spells_commas {texts : List String} {rows : List (List Token)}
    (each : List.Forall₂ (fun text row => Spells text.toList row) texts rows) :
    Spells (",".intercalate texts).toList (joined rows) := by
  have comma : IsMark ',' := by decide
  have leads : Leads ",".toList [.mark ','] := leads_mark comma
  exact spells_joined leads (fun rest => comma.ends rest) (List.cons_ne_nil _ _) each

/-- Items are spelled together where each of them is, whatever the layout. -/
theorem spells_items {print : Json → String} {items : List Json}
    (each : ∀ item ∈ items, Spells (print item).toList item.tokens) :
    List.Forall₂ (fun text row => Spells text.toList row) (items.map print) (itemTokens items) := by
  induction items with
  | nil => exact .nil
  | cons item items ih =>
    obtain ⟨own, others⟩ := List.forall_mem_cons.1 each
    exact .cons own (ih others)

/-- Members are spelled together where the value of each of them is, whatever the layout, with a
separator behind the keys that is cut as a colon. -/
theorem spells_members {print : Json → String} {separator : String}
    (colon : Leads separator.toList [.mark ':']) {members : List (String × Json)}
    (each : ∀ entry ∈ members, Spells (print entry.2).toList entry.2.tokens) :
    List.Forall₂ (fun text row => Spells text.toList row)
      (members.map fun entry => quoted (quote entry.1) ++ separator ++ print entry.2)
      (memberTokens (members.map fun entry => member entry.1 entry.2)) := by
  induction members with
  | nil => exact .nil
  | cons entry members ih =>
    obtain ⟨own, others⟩ := List.forall_mem_cons.1 each
    refine .cons ?_ (ih others)
    have whole := (leads_quoted entry.1).append_spells (colon.append_spells own)
    rw [String.toList_append, String.toList_append, List.append_assoc]
    exact whole

/-- Items in the compact layout are their compact texts. -/
theorem compactItems_eq_map (items : List Json) : compactItems items = items.map compact := by
  induction items with
  | nil => rfl
  | cons item items ih => rw [compactItems, ih, List.map_cons]

/-- Members in the compact layout are their keys and their compact texts. -/
theorem compactMembers_eq_map (members : List (String × Json)) :
    compactMembers (members.map fun entry => member entry.1 entry.2) =
      members.map fun entry => quoted (quote entry.1) ++ ":" ++ entry.2.compact := by
  induction members with
  | nil => rfl
  | cons entry members ih =>
    rw [List.map_cons, List.map_cons, ← ih]
    rfl

/-- A written value is cut into its tokens in the compact layout. -/
theorem IsWritten.spells_compact {value : Json} (written : IsWritten value) :
    Spells value.compact.toList value.tokens := by
  induction written with
  | null => exact spells_word (by decide) (by decide)
  | bool value =>
    cases value with
    | false => exact spells_word (by decide) (by decide)
    | true => exact spells_word (by decide) (by decide)
  | number numeral => exact numeral.spells
  | text value => exact (leads_quoted value).spells
  | @array items each ih =>
    have opens : IsMark '[' := by decide
    have closes : IsMark ']' := by decide
    have bracketed := spells_bracketed opens closes (spells_commas (spells_items ih))
    rw [compact, compactItems_eq_map, String.toList_append, String.toList_append,
      List.append_assoc]
    exact bracketed
  | @ofMembers members each ih =>
    have colon : IsMark ':' := by decide
    have leads : Leads ":".toList [.mark ':'] := leads_mark colon
    have opens : IsMark '\x7b' := by decide
    have closes : IsMark '\x7d' := by decide
    have bracketed := spells_bracketed opens closes (spells_commas (spells_members leads ih))
    rw [Json.ofMembers, compact, compactMembers_eq_map, String.toList_append,
      String.toList_append, List.append_assoc]
    exact bracketed

/-- A written value is read from any text that is cut into its tokens. -/
theorem IsWritten.parse?_of_spells {value : Json} (written : IsWritten value) {text : String}
    (spelled : Spells text.toList value.tokens) : parse? text = some value := by
  have noRest : Ends [] := fun c head => by cases head
  have cut := spelled [] noRest
  have read := written.readBack [] []
  rw [closeValue] at read
  rw [Token.ofChars] at cut
  rw [List.append_nil] at cut
  rw [parse?, cut]
  exact read

/-- A written value is read from its compact layout. -/
theorem IsWritten.parse?_compact {value : Json} (written : IsWritten value) :
    parse? value.compact = some value :=
  written.parse?_of_spells written.spells_compact

/-- No two written values have the same compact layout. -/
theorem IsWritten.eq_of_compact_eq {value other : Json} (written : IsWritten value)
    (otherWritten : IsWritten other) (same : value.compact = other.compact) : value = other := by
  have read := written.parse?_compact
  rw [same, otherWritten.parse?_compact] at read
  exact (Option.some.inj read).symm

end CqlSchema.Json
