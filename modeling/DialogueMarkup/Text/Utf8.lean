/-!
UTF-8: texts as octets. Each character has one form, the shortest; octets that are no character's
form are no text.
-/
namespace DialogueMarkup.Text.Utf8

def tail? (b : UInt8) : Option Nat :=
  if 0x80 ≤ b ∧ b ≤ 0xBF then some (b.toNat - 0x80) else none

/-- A character with a code point of at least `least`. -/
def char? (least n : Nat) : Option Char :=
  if least ≤ n ∧ n.isValidChar then some (Char.ofNat n) else none

def read : List UInt8 → Option (Char × List UInt8)
  | [] => none
  | a :: s =>
    if a < 0x80 then some (Char.ofNat a.toNat, s)
    else if 0xC2 ≤ a ∧ a ≤ 0xDF then
      match s with
      | b :: s => do return (← char? 0x80 ((a.toNat - 0xC0) * 64 + (← tail? b)), s)
      | _ => none
    else if 0xE0 ≤ a ∧ a ≤ 0xEF then
      match s with
      | b :: c :: s => do
        return (← char? 0x800 (((a.toNat - 0xE0) * 64 + (← tail? b)) * 64 + (← tail? c)), s)
      | _ => none
    else if 0xF0 ≤ a ∧ a ≤ 0xF4 then
      match s with
      | b :: c :: d :: s => do
        return (← char? 0x10000
          ((((a.toNat - 0xF0) * 64 + (← tail? b)) * 64 + (← tail? c)) * 64 + (← tail? d)), s)
      | _ => none
    else none

def readAll : Nat → List UInt8 → Option (List Char)
  | _, [] => some []
  | 0, _ => none
  | n + 1, bytes => do
    let (c, rest) ← read bytes
    return c :: (← readAll n rest)

def decode (bytes : List UInt8) : Option (List Char) := readAll bytes.length bytes

def octets (c : Char) : List UInt8 :=
  let n := c.toNat
  let tail (k : Nat) : UInt8 := (0x80 + k % 64).toUInt8
  if n < 0x80 then [n.toUInt8]
  else if n < 0x800 then [(0xC0 + n / 64).toUInt8, tail n]
  else if n < 0x10000 then [(0xE0 + n / 4096).toUInt8, tail (n / 64), tail n]
  else [(0xF0 + n / 262144).toUInt8, tail (n / 4096), tail (n / 64), tail n]

def encode (s : List Char) : List UInt8 := s.flatMap octets

end DialogueMarkup.Text.Utf8
