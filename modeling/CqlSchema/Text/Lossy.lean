/-!
# Reading bytes as text

UTF-8 with a replacement: bytes that do not go on to a character become one replacement
character for each longest start of a character among them.
-/

namespace CqlSchema.Text

/-- Character that stands for bytes that are no character. -/
def replacement : Char := '\ufffd'

/-- Number of bytes that follow a first byte, its own bits, and the bounds of the second byte. -/
def following? (first : Nat) : Option (Nat × Nat × Nat × Nat) :=
  if 0xc2 ≤ first ∧ first ≤ 0xdf then some (1, first - 0xc0, 0x80, 0xbf)
  else if first = 0xe0 then some (2, 0, 0xa0, 0xbf)
  else if first = 0xed then some (2, 0xd, 0x80, 0x9f)
  else if 0xe1 ≤ first ∧ first ≤ 0xef then some (2, first - 0xe0, 0x80, 0xbf)
  else if first = 0xf0 then some (3, 0, 0x90, 0xbf)
  else if 0xf1 ≤ first ∧ first ≤ 0xf3 then some (3, first - 0xf0, 0x80, 0xbf)
  else if first = 0xf4 then some (3, 4, 0x80, 0x8f)
  else none

/-- Reads the bytes that follow a first byte; `low` and `high` bound the next of them. Returns
the character, and what is left. -/
def continueChar (value low high : Nat) : Nat → List UInt8 → Char × List UInt8
  | 0, bytes => (Char.ofNat value, bytes)
  | _ + 1, [] => (replacement, [])
  | count + 1, byte :: bytes =>
    if low ≤ byte.toNat ∧ byte.toNat ≤ high then
      continueChar (value * 64 + (byte.toNat - 0x80)) 0x80 0xbf count bytes
    else (replacement, byte :: bytes)

/-- Reading a character leaves no more bytes than there were. -/
theorem length_continueChar (value low high count : Nat) (bytes : List UInt8) :
    (continueChar value low high count bytes).2.length ≤ bytes.length := by
  fun_induction continueChar value low high count bytes with
  | case1 => simp
  | case2 => simp
  | case3 value low high count byte bytes inside ih => simp only [List.length_cons]; omega
  | case4 => simp

/-- Characters that bytes write. -/
def decodeLossy : List UInt8 → List Char
  | [] => []
  | first :: rest =>
    if first < 0x80 then Char.ofNat first.toNat :: decodeLossy rest
    else match following? first.toNat with
      | none => replacement :: decodeLossy rest
      | some (count, value, low, high) =>
        have := length_continueChar value low high count rest
        (continueChar value low high count rest).1 ::
          decodeLossy (continueChar value low high count rest).2
  termination_by bytes => bytes.length
  decreasing_by
    all_goals simp only [List.length_cons]
    all_goals omega

end CqlSchema.Text
