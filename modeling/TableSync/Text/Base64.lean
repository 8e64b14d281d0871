/-
  TableSync/Text/Base64.lean
  ==========================
  **Bytes as text** — six bits to a character.

  Four characters hold three bytes; a padding character stands for six bits
  that are not there.
-/

namespace TableSync.Text.Base64

/-- The six bits that a character stands for. -/
def bits? (c : Char) : Option Nat :=
  if 'A' ≤ c ∧ c ≤ 'Z' then some (c.toNat - 'A'.toNat)
  else if 'a' ≤ c ∧ c ≤ 'z' then some (c.toNat - 'a'.toNat + 26)
  else if '0' ≤ c ∧ c ≤ '9' then some (c.toNat - '0'.toNat + 52)
  else if c = '+' then some 62
  else if c = '/' then some 63
  else none

/-- The bytes of up to four groups of six bits. -/
def bytesOf : List Nat → List UInt8
  | a :: b :: rest =>
    UInt8.ofNat (a * 4 + b / 16) :: (match rest with
      | c :: rest => UInt8.ofNat (b * 16 + c / 4) :: (match rest with
        | d :: _ => [UInt8.ofNat (c * 64 + d)]
        | [] => [])
      | [] => [])
  | _ => []

/-- The bytes of groups of six bits, four at a time. -/
def join : List Nat → List UInt8
  | a :: b :: c :: d :: rest => bytesOf [a, b, c, d] ++ join rest
  | rest => bytesOf rest

/-- The bytes that a text stands for; characters without bits are skipped. -/
def decode (s : String) : ByteArray := ⟨(join (s.toList.filterMap bits?)).toArray⟩

end TableSync.Text.Base64
