import CqlSchema.DataType.Lexeme
import Mathlib.Data.List.TakeWhile
/-!
# How signatures are cut

Cutting a text takes its lexemes from the front one at a time: blanks before a lexeme are
skipped, and a word goes as far as word characters do. `cut_lexeme` says so for a lexeme that
is written, and `cut_eq_cons` says that every cut arises in this way.
-/

namespace CqlSchema.DataType

/-- Texts that consist of blanks. -/
def Blanks (text : List Char) : Prop :=
  ∀ c ∈ text, Text.isBlank c = true

/-- Words are non-empty runs of word characters. -/
def IsWord (text : List Char) : Prop :=
  text ≠ [] ∧ ∀ c ∈ text, isWordChar c = true

/-- No word goes on into a text: it does not start with a word character. -/
def EndsWord (rest : List Char) : Prop :=
  ∀ c, rest.head? = some c → isWordChar c = false

/-- Word characters are ASCII characters. -/
theorem toNat_lt_of_isWordChar {c : Char} (h : isWordChar c = true) : c.toNat < 128 := by
  change (((decide ('A'.val ≤ c.val ∧ c.val ≤ 'Z'.val) ||
    (decide ('a'.val ≤ c.val) && decide (c.val ≤ 'z'.val))) ||
    (decide ('0'.val ≤ c.val) && decide (c.val ≤ '9'.val))) || decide (c = '_')) = true at h
  simp only [Bool.or_eq_true, Bool.and_eq_true, decide_eq_true_eq, UInt32.le_iff_toNat_le] at h
  have value : c.val.toNat = c.toNat := rfl
  rw [value] at h
  rcases h with ((⟨-, upper⟩ | ⟨-, lower⟩) | ⟨-, digit⟩) | rfl
  · exact Nat.lt_of_le_of_lt upper (by decide)
  · exact Nat.lt_of_le_of_lt lower (by decide)
  · exact Nat.lt_of_le_of_lt digit (by decide)
  · decide

/-- No blank is a word character. -/
theorem isWordChar_of_isBlank {c : Char} (blank : Text.isBlank c = true) :
    isWordChar c = false := by
  have ascii : ∀ n < 128, isWordChar (Char.ofNat n) = true →
      Text.isBlank (Char.ofNat n) = false := by
    decide
  by_contra word
  rw [Bool.not_eq_false] at word
  have notBlank := ascii c.toNat (toNat_lt_of_isWordChar word)
  rw [Char.ofNat_toNat] at notBlank
  rw [notBlank word] at blank
  cases blank

/-- Blanks end a word, and so does the end of the text. -/
theorem EndsWord.blanks_append {after rest : List Char} (ends : EndsWord rest)
    (blanks : Blanks after) : EndsWord (after ++ rest) := by
  cases after with
  | nil => exact ends
  | cons first after =>
    intro c head
    obtain rfl := Option.some.inj head
    exact isWordChar_of_isBlank (blanks first List.mem_cons_self)

/-- The end of the text ends a word. -/
theorem endsWord_nil : EndsWord [] := by
  intro c head
  cases head

namespace Lexeme

/-- Characters of a lexeme. -/
def chars : Lexeme → List Char
  | .word text => text.toList
  | .mark c => [c]

/-- A lexeme stands before a text when nothing of the text belongs to it. -/
def StandsBefore (rest : List Char) : Lexeme → Prop
  | .word text => IsWord text.toList ∧ EndsWord rest
  | .mark c => isWordChar c = false ∧ Text.isBlank c = false

/-- A lexeme that stands before a text stands before blanks and that text. -/
theorem StandsBefore.blanks_append {lexeme : Lexeme} {after rest : List Char}
    (stands : lexeme.StandsBefore rest) (blanks : Blanks after) :
    lexeme.StandsBefore (after ++ rest) := by
  cases lexeme with
  | word text => exact ⟨stands.1, stands.2.blanks_append blanks⟩
  | mark c => exact stands

/-- A lexeme has at least one character. -/
theorem StandsBefore.chars_ne_nil {lexeme : Lexeme} {rest : List Char}
    (stands : lexeme.StandsBefore rest) : lexeme.chars ≠ [] := by
  cases lexeme with
  | word text => exact stands.1.1
  | mark c => exact List.cons_ne_nil c []

/-- The bytes of a text are those of its characters. -/
theorem bytes_toList (text : String) : bytes text.toList = text.utf8ByteSize := by
  have ofList : ∀ chars : List Char, bytes chars = (String.ofList chars).utf8ByteSize := by
    intro chars
    induction chars with
    | nil => rfl
    | cons c rest ih => simp [ih]
  rw [ofList, String.ofList_toList]

/-- Blanks at the front are skipped. -/
theorem cut_blanks {before : List Char} (blanks : Blanks before) (offset : Nat)
    (rest : List Char) : cut offset (before ++ rest) = cut (offset + bytes before) rest := by
  induction before generalizing offset with
  | nil => simp
  | cons c before ih =>
    have blank := blanks c List.mem_cons_self
    rw [List.cons_append, cut, if_neg (by simp [isWordChar_of_isBlank blank]), if_pos blank,
      ih (fun d member => blanks d (List.mem_cons_of_mem c member)), bytes_cons, Nat.add_assoc]

/-- A written lexeme is cut off whole, with the offset after the blanks before it. -/
theorem cut_lexeme {before rest : List Char} {lexeme : Lexeme} (blanks : Blanks before)
    (stands : lexeme.StandsBefore rest) (offset : Nat) :
    cut offset (before ++ lexeme.chars ++ rest) =
      ⟨offset + bytes before, lexeme⟩ ::
        cut (offset + bytes before + bytes lexeme.chars) rest := by
  rw [List.append_assoc, cut_blanks blanks]
  cases lexeme with
  | word text =>
    obtain ⟨⟨nonempty, inside⟩, ends⟩ := stands
    obtain ⟨c, tail, shape⟩ := List.exists_cons_of_ne_nil nonempty
    -- No word goes on into `rest`, so the run of word characters ends with the written word.
    have stop : rest.takeWhile isWordChar = [] ∧ rest.dropWhile isWordChar = rest := by
      cases rest with
      | nil => exact ⟨rfl, rfl⟩
      | cons d rest => simp [ends d rfl]
    have inTail : ∀ d ∈ tail, isWordChar d = true := by
      intro d member
      exact inside d (shape ▸ List.mem_cons_of_mem c member)
    have written : String.ofList (c :: tail) = text := by
      rw [← shape, String.ofList_toList]
    show cut _ (text.toList ++ rest) = ⟨_, .word text⟩ :: cut (_ + bytes text.toList) rest
    rw [shape, List.cons_append, cut, if_pos (inside c (shape ▸ List.mem_cons_self)),
      List.takeWhile_append_of_pos inTail, List.dropWhile_append_of_pos inTail, stop.1, stop.2,
      List.append_nil, ← written]
  | mark c =>
    show cut _ (c :: rest) = ⟨_, .mark c⟩ :: cut (_ + bytes [c]) rest
    rw [cut, if_neg (by simp [stands.1]), if_neg (by simp [stands.2])]
    simp

/-- A text without lexemes consists of blanks. -/
theorem blanks_of_cut {offset : Nat} {text : List Char} (empty : cut offset text = []) :
    Blanks text := by
  induction text generalizing offset with
  | nil => intro c member; cases member
  | cons c rest ih =>
    rw [cut] at empty
    split at empty
    · cases empty
    · split at empty
      · rename_i blank
        intro d member
        rcases List.mem_cons.1 member with rfl | inside
        · exact blank
        · exact ih empty d inside
      · cases empty

/-- The first lexeme of a text stands in it after blanks, and the others are cut from what
follows. -/
theorem cut_eq_cons {offset place : Nat} {text : List Char} {lexeme : Lexeme}
    {later : List Placed} (shape : cut offset text = ⟨place, lexeme⟩ :: later) :
    ∃ before rest, text = before ++ lexeme.chars ++ rest ∧ Blanks before ∧
      lexeme.StandsBefore rest ∧ place = offset + bytes before ∧
      later = cut (place + bytes lexeme.chars) rest := by
  induction text generalizing offset with
  | nil => rw [cut] at shape; cases shape
  | cons c rest ih =>
    rw [cut] at shape
    split at shape
    · rename_i isWord
      cases shape
      have inside : ∀ d ∈ c :: rest.takeWhile isWordChar, isWordChar d = true := by
        intro d member
        rcases List.mem_cons.1 member with rfl | taken
        · exact isWord
        · exact List.mem_takeWhile_imp taken
      refine ⟨[], rest.dropWhile isWordChar, ?_, by simp [Blanks], ⟨?_, ?_⟩, by simp, ?_⟩
      · simp [chars]
      · simpa [IsWord] using inside
      · intro d head
        have kept := List.head?_dropWhile_not isWordChar rest
        simpa [head] using kept
      · simp [chars]
    · rename_i notWord
      split at shape
      · rename_i blank
        obtain ⟨before, tail, rfl, blanks, stands, rfl, rfl⟩ := ih shape
        refine ⟨c :: before, tail, rfl, ?_, stands, by simp [Nat.add_assoc], rfl⟩
        intro d member
        rcases List.mem_cons.1 member with rfl | inside
        · exact blank
        · exact blanks d inside
      · rename_i notBlank
        cases shape
        exact ⟨[], rest, rfl, by simp [Blanks], ⟨by simpa using notWord, by simpa using notBlank⟩,
          by simp, by simp [chars]⟩

/-! ## Texts in parts -/

/-- No word goes across the border of two texts. -/
def Apart (front rest : List Char) : Prop :=
  ∀ c, front.getLast? = some c → isWordChar c = true → EndsWord rest

/-- A text that is apart from one that starts with a word is apart from every text. -/
theorem Apart.of_word {front rest : List Char} {c : Char} (apart : Apart front (c :: rest))
    (word : isWordChar c = true) (other : List Char) : Apart front other := by
  intro d last wordBefore
  have ends := apart d last wordBefore c rfl
  rw [ends] at word
  cases word

/-- What stands before a non-empty text does not matter to the texts that it is apart from. -/
theorem apart_append_iff {before front rest : List Char} (nonempty : front ≠ []) :
    Apart (before ++ front) rest ↔ Apart front rest := by
  have last := List.getLast?_eq_some_getLast nonempty
  rw [Apart, Apart, List.getLast?_append, last]
  rfl

/-- A lexeme is apart from the texts before which it stands. -/
theorem apart_chars_iff {lexeme : Lexeme} {rest : List Char} (stands : lexeme.StandsBefore []) :
    Apart lexeme.chars rest ↔ lexeme.StandsBefore rest := by
  cases lexeme with
  | mark c =>
    refine ⟨fun _ => stands, fun _ d last word => ?_⟩
    obtain rfl : c = d := Option.some.inj last
    rw [stands.1] at word
    cases word
  | word text =>
    have last := List.getLast?_eq_some_getLast stands.1.1
    have word := stands.1.2 _ (List.getLast_mem stands.1.1)
    exact ⟨fun apart => ⟨stands.1, apart _ last word⟩, fun others _ _ _ => others.2⟩

/-- A lexeme that stands before a text stands before everything that starts like the text. -/
theorem StandsBefore.of_head {lexeme : Lexeme} {rest other : List Char}
    (stands : lexeme.StandsBefore rest) (same : ∀ c, other.head? = some c → rest.head? = some c) :
    lexeme.StandsBefore other := by
  cases lexeme with
  | mark c => exact stands
  | word text => exact ⟨stands.1, fun c head => stands.2 c (same c head)⟩

/-- A lexeme and a text before which it stands are apart from a further text when the lexeme stands
before both and the text is apart from the further one. -/
theorem apart_lexeme_append_iff {lexeme : Lexeme} {before front rest : List Char}
    (stands : lexeme.StandsBefore front) :
    Apart (before ++ lexeme.chars ++ front) rest ↔
      Apart front rest ∧ lexeme.StandsBefore (front ++ rest) := by
  cases front with
  | nil =>
    rw [List.append_nil, apart_append_iff stands.chars_ne_nil, apart_chars_iff stands,
      List.nil_append, iff_and_self]
    intro _ c last
    cases last
  | cons c front =>
    rw [apart_append_iff (List.cons_ne_nil c front), iff_self_and]
    intro _
    exact stands.of_head fun d head => head

/-- A text is cut in parts where no word goes across their border. -/
theorem cut_append {front rest : List Char} (apart : Apart front rest) (offset : Nat) :
    cut offset (front ++ rest) = cut offset front ++ cut (offset + bytes front) rest := by
  induction shape : cut offset front generalizing offset front with
  | nil => rw [cut_blanks (blanks_of_cut shape), List.nil_append]
  | cons placed later ih =>
    obtain ⟨place, lexeme⟩ := placed
    obtain ⟨before, tail, rfl, blanks, stands, rfl, rfl⟩ := cut_eq_cons shape
    obtain ⟨tailApart, together⟩ := (apart_lexeme_append_iff stands).1 apart
    rw [List.append_assoc, cut_lexeme blanks together, ih tailApart _ rfl, List.cons_append]
    simp only [bytes_append, Nat.add_assoc]

/-- Lexemes may be taken from the front of a text: they are those of a first part, and the others
are those of what follows it, which starts with no blank. -/
theorem exists_split {offset : Nat} {text : List Char} {before after : List Placed}
    (shape : cut offset text = before ++ after) :
    ∃ front rest, text = front ++ rest ∧ Apart front rest ∧ cut offset front = before ∧
      cut (offset + bytes front) rest = after ∧
      ∀ c, rest.head? = some c → Text.isBlank c = false := by
  induction before generalizing offset text with
  | nil =>
    have blanks : Blanks (text.takeWhile Text.isBlank) := fun c member =>
      List.mem_takeWhile_imp member
    have split := (List.takeWhile_append_dropWhile : text.takeWhile Text.isBlank ++ _ = text)
    have front := cut_blanks blanks offset []
    have whole := cut_blanks blanks offset (text.dropWhile Text.isBlank)
    rw [List.append_nil] at front
    rw [split, shape] at whole
    refine ⟨_, _, split.symm, ?_, by rw [front, cut], whole.symm, fun c head => ?_⟩
    · intro c last word
      have blank := blanks c (List.mem_of_getLast? last)
      rw [isWordChar_of_isBlank blank] at word
      cases word
    · have kept := List.head?_dropWhile_not Text.isBlank text
      simpa [head] using kept
  | cons placed before ih =>
    obtain ⟨place, lexeme⟩ := placed
    obtain ⟨blank, tail, rfl, blanks, stands, rfl, others⟩ := cut_eq_cons shape
    obtain ⟨front, rest, rfl, apart, rfl, rfl, start⟩ := ih others.symm
    have standsFront : lexeme.StandsBefore front := stands.of_head fun c head => by
      rw [List.head?_append, head]
      rfl
    refine ⟨blank ++ lexeme.chars ++ front, rest, by simp only [List.append_assoc],
      (apart_lexeme_append_iff standsFront).2 ⟨apart, stands⟩, cut_lexeme blanks standsFront offset,
      ?_, start⟩
    simp only [bytes_append, Nat.add_assoc]

/-- A lexeme starts with a character. -/
def StartsWith (c : Char) : Lexeme → Prop
  | .word text => text.toList.head? = some c ∧ isWordChar c = true
  | .mark char => char = c ∧ isWordChar c = false

/-- Where a text starts with no blank, its first lexeme starts as the text does. -/
theorem exists_first {c : Char} (notBlank : Text.isBlank c = false) (offset : Nat)
    (rest : List Char) : ∃ lexeme later,
      cut offset (c :: rest) = ⟨offset, lexeme⟩ :: later ∧ lexeme.StartsWith c := by
  rw [cut]
  split
  · rename_i inWord
    refine ⟨_, _, rfl, ?_, inWord⟩
    rw [String.toList_ofList]
    rfl
  · rename_i outside
    rw [if_neg (by simp [notBlank])]
    exact ⟨_, _, rfl, rfl, by simpa using outside⟩

end Lexeme

end CqlSchema.DataType
