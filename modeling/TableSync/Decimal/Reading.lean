/-
  TableSync/Decimal/Reading.lean
  ==============================
  **Reading decimals** — `digits · 10 ^ exponent` as the nearest double.

  `Decimal.toFloat` is correct rounding, with exponents far outside the range
  of doubles answered without computing the power: such a number is zero or
  infinite whatever its digits are.
-/

namespace TableSync.Decimal

/-- How many decimal digits a number has; zero has one. -/
def length (n : Nat) : Nat := (Nat.toDigits 10 n).length

/-- The double nearest to `mantissa · 10 ^ exponent`. -/
def toFloat (mantissa : Nat) (exponent : Int) : Float :=
  if mantissa = 0 then 0.0
  else if exponent + length mantissa < -330 then 0.0
  else if exponent + length mantissa > 330 then Float.ofBits 0x7FF0000000000000
  else if exponent < 0 then Float.ofScientific mantissa true exponent.natAbs
  else Float.ofScientific mantissa false exponent.natAbs

/-- The value of an ASCII digit. -/
def digit? (c : Char) : Option Nat :=
  if '0' ≤ c ∧ c ≤ '9' then some (c.toNat - '0'.toNat) else none

/-- The number that a run of ASCII digits spells, read on from `acc`. -/
def ofDigits (acc : Nat) (cs : List Char) : Nat :=
  cs.foldl (fun n c => 10 * n + (c.toNat - '0'.toNat)) acc

/-- Split off the leading ASCII digits. -/
def spanDigits (cs : List Char) : List Char × List Char := cs.span Char.isDigit

end TableSync.Decimal
