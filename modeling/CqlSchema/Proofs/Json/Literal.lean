import CqlSchema.Json.Reader
/-!
# Texts as string literals

A text is written as a string literal character by character, and each character is written in one
of three ways. Reading undoes each of them, and finds the end of a written literal at the quote that
closes it, so a literal tells its text.
-/

namespace CqlSchema.Json

/-- Ways in which a character is written inside a literal: by a letter behind a backslash, by its
number, or as it is. -/
inductive Written (c : Char) : List Char → Prop
  | letter {letter : Char} (notNumber : letter ≠ 'u') (stands : simpleEscape? letter = some c) :
      Written c ['\\', letter]
  | number (control : c.toNat < 32) :
      Written c ['\\', 'u', '0', '0', hexDigit (c.toNat / 16), hexDigit (c.toNat % 16)]
  | plain (notQuote : c ≠ '\x22') (notBackslash : c ≠ '\\') (printable : 32 ≤ c.toNat) :
      Written c [c]

/-- Every character is written in one of these ways. -/
theorem written_escape (c : Char) : Written c (escape c) := by
  unfold escape
  split
  · rename_i same
    exact .letter (by decide) (by rw [same]; rfl)
  split
  · rename_i same
    exact .letter (by decide) (by rw [same]; rfl)
  split
  · rename_i same
    exact .letter (by decide) (by rw [same]; rfl)
  split
  · rename_i same
    exact .letter (by decide) (by rw [same]; rfl)
  split
  · rename_i same
    exact .letter (by decide) (by rw [same]; rfl)
  split
  · rename_i same
    exact .letter (by decide) (by rw [same]; rfl)
  split
  · rename_i same
    exact .letter (by decide) (by rw [same]; rfl)
  split
  · rename_i control
    exact .number control
  · rename_i notQuote notBackslash _ _ _ _ _ printable
    exact .plain notQuote notBackslash (Nat.le_of_not_lt printable)

/-- A hexadecimal digit has the value for which it is written. -/
theorem hexValue?_hexDigit : ∀ n < 16, hexValue? (hexDigit n) = some n := by
  decide

/-- The number of a control character is written by its two last digits. -/
theorem unit?_of_control {c : Char} (control : c.toNat < 32) :
    unit? '0' '0' (hexDigit (c.toNat / 16)) (hexDigit (c.toNat % 16)) = some c.toNat := by
  have zero : hexValue? '0' = some 0 := rfl
  have high := hexValue?_hexDigit (c.toNat / 16) (by omega)
  have low := hexValue?_hexDigit (c.toNat % 16) (by omega)
  have sum : ((0 * 16 + 0) * 16 + c.toNat / 16) * 16 + c.toNat % 16 = c.toNat := by omega
  simp only [unit?, zero, high, low, Option.bind_eq_bind, Option.bind_some, sum]
  rfl

/-- A written character is read back. -/
theorem unquoteChars_written {c : Char} {written : List Char} (shape : Written c written)
    (rest : List Char) :
    unquoteChars (written ++ rest) = (unquoteChars rest).map (c :: ·) := by
  cases shape with
  | letter notNumber stands =>
    rename_i letter
    show unquoteChars ('\\' :: letter :: rest) = _
    rw [unquoteChars, stands]
    rintro a b c d others rfl
    exact fun _ => notNumber rfl
  | number control =>
    have notLow : isLowSurrogate c.toNat = false := by
      simp [isLowSurrogate]; omega
    have notHigh : isHighSurrogate c.toNat = false := by
      simp [isHighSurrogate]; omega
    show unquoteChars ('\\' :: 'u' :: '0' :: '0' :: hexDigit (c.toNat / 16) ::
      hexDigit (c.toNat % 16) :: rest) = _
    rw [unquoteChars, unit?_of_control control]
    simp only [notLow, notHigh, Bool.false_eq_true, if_false, Char.ofNat_toNat]
  | plain notQuote notBackslash printable =>
    show unquoteChars (c :: rest) = _
    rw [unquoteChars]
    · rw [if_neg notBackslash]
    · exact fun _ _ _ _ _ same => absurd same notBackslash
    · exact fun _ _ same => absurd same notBackslash

/-- A written character stays inside a literal. -/
theorem splitLiteral_written {c : Char} {written : List Char} (shape : Written c written)
    (rest : List Char) :
    Token.splitLiteral (written ++ rest) =
      (Token.splitLiteral rest).map fun (inside, after) => (written ++ inside, after) := by
  cases shape with
  | letter notNumber stands =>
    rename_i letter
    show Token.splitLiteral ('\\' :: letter :: rest) = _
    rw [Token.splitLiteral, stands]
    · rfl
    · exact fun _ _ _ _ _ same _ => notNumber same
  | number control =>
    show Token.splitLiteral ('\\' :: 'u' :: '0' :: '0' :: hexDigit (c.toNat / 16) ::
      hexDigit (c.toNat % 16) :: rest) = _
    rw [Token.splitLiteral, unit?_of_control control]
    rfl
  | plain notQuote notBackslash printable =>
    show Token.splitLiteral (c :: rest) = _
    rw [Token.splitLiteral]
    · rw [if_neg notQuote, if_neg (not_or.2 ⟨notBackslash, Nat.not_lt_of_le printable⟩)]
      rfl
    · exact fun _ _ _ _ _ same => absurd same notBackslash
    · exact fun _ _ same => absurd same notBackslash

/-- What is written for characters reads as them. -/
theorem unquoteChars_escape (chars : List Char) :
    unquoteChars (chars.flatMap escape) = some chars := by
  induction chars with
  | nil => rw [List.flatMap_nil, unquoteChars]
  | cons c rest ih =>
    rw [List.flatMap_cons, unquoteChars_written (written_escape c), ih]
    rfl

/-- A written literal denotes its text. -/
theorem unquote?_quote (text : String) : unquote? (quote text) = some text := by
  rw [unquote?, quote, String.toList_ofList, unquoteChars_escape, Option.map_some,
    String.ofList_toList]

/-- A literal is written for one text only. -/
theorem quote_injective : Function.Injective quote := by
  intro first second same
  have read := congrArg unquote? same
  rw [unquote?_quote, unquote?_quote] at read
  exact Option.some.inj read

/-- A written literal ends at the quote behind it. -/
theorem splitLiteral_quote (text : String) (rest : List Char) :
    Token.splitLiteral ((quote text).toList ++ '\x22' :: rest) =
      some ((quote text).toList, rest) := by
  rw [quote, String.toList_ofList]
  induction text.toList with
  | nil =>
    rw [List.flatMap_nil, List.nil_append, Token.splitLiteral, if_pos rfl]
    · exact fun _ _ _ _ _ same => absurd same (by decide)
    · exact fun _ _ same => absurd same (by decide)
  | cons c chars ih =>
    rw [List.flatMap_cons, List.append_assoc, splitLiteral_written (written_escape c), ih]
    rfl

end CqlSchema.Json
