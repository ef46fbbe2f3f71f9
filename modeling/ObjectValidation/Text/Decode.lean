/-!
Text from bytes that need not be well-formed. Every longest run of bytes that begins a character without
completing one is shown by a single replacement character, and so is every byte that begins none.
-/

namespace ObjectValidation.Text

/-- The character that stands for bytes that are no text. -/
def replacement : Char := '\ufffd'

/-- The bytes that may follow a leading byte: how many, and the range of the first of them. All others
lie between 0x80 and 0xBF. -/
structure Continuation where
  count : Nat
  first : Nat
  last : Nat

def continuation? (lead : Nat) : Option Continuation :=
  if 0xC2 ≤ lead ∧ lead ≤ 0xDF then some ⟨1, 0x80, 0xBF⟩
  else if lead = 0xE0 then some ⟨2, 0xA0, 0xBF⟩
  else if lead = 0xED then some ⟨2, 0x80, 0x9F⟩
  else if 0xE1 ≤ lead ∧ lead ≤ 0xEF then some ⟨2, 0x80, 0xBF⟩
  else if lead = 0xF0 then some ⟨3, 0x90, 0xBF⟩
  else if 0xF1 ≤ lead ∧ lead ≤ 0xF3 then some ⟨3, 0x80, 0xBF⟩
  else if lead = 0xF4 then some ⟨3, 0x80, 0x8F⟩
  else none

/-- The bytes at the front that continue a character. -/
def continuing (c : Continuation) : List Nat → List Nat
  | [] => []
  | b :: rest =>
    if c.first ≤ b ∧ b ≤ c.last then
      b :: (rest.take (c.count - 1)).takeWhile fun b => decide (0x80 ≤ b) && decide (b ≤ 0xBF)
    else []

/-- The character that a leading byte and the bytes after it spell: each of those brings six bits. -/
def spelled (lead : Nat) (bytes : List Nat) : Char :=
  let high := lead % Nat.pow 2 (6 - bytes.length)
  Char.ofNat (bytes.foldl (fun n b => n * 64 + b % 64) high)

def decodeBytes : List Nat → List Char
  | [] => []
  | b :: rest =>
    if b < 0x80 then Char.ofNat b :: decodeBytes rest
    else
      match continuation? b with
      | none => replacement :: decodeBytes rest
      | some c =>
        let bytes := continuing c rest
        (if bytes.length = c.count then spelled b bytes else replacement) ::
          decodeBytes (rest.drop bytes.length)
termination_by bytes => bytes.length
decreasing_by
  all_goals simp only [List.length_cons, List.length_drop]; omega

def decode (bytes : List Nat) : String := String.ofList (decodeBytes bytes)

end ObjectValidation.Text
