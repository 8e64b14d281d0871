/-
  TableSync/Decimal/Binary64.lean
  ===============================
  **What a binary64 number is** — sign, mantissa and power of two.

  Every exact question about a double (is it above that whole number, which
  decimals round to it) is asked of `Binary64.decode`, which takes the bits
  apart once.  From there on the arithmetic is on `Nat` and `Int`.
-/
import TableSync.Decimal.Power

namespace TableSync

/-- A binary64 number taken apart. A finite one is `mantissa · 2 ^ exponent` with its sign. -/
inductive Binary64 where
  | nan
  | infinite (negative : Bool)
  | finite (negative : Bool) (mantissa : Nat) (exponent : Int)
deriving DecidableEq, Repr

namespace Binary64

/-- Take the bits of a double apart. -/
def decode (x : Float) : Binary64 :=
  let bits := x.toBits.toNat
  let negative := bits / twoTo 63 == 1
  let biased : Nat := bits / twoTo 52 % twoTo 11
  let fraction : Nat := bits % twoTo 52
  if biased = 2047 then
    if fraction = 0 then infinite negative else nan
  else if biased = 0 then
    finite negative fraction (-1074)
  else
    finite negative (fraction + twoTo 52) ((biased : Int) - 1075)

/-- The three outcomes of comparing a whole number with a finite double, or none for no number. -/
def compareInt (n : Int) : Binary64 → Option Ordering
  | nan => none
  | infinite negative => some (if negative then .gt else .lt)
  | finite negative m q =>
    let signed : Int := if negative then -(m : Int) else m
    if 0 ≤ q then some (compare n (signed * twoTo q.toNat))
    else some (compare (n * twoTo (-q).toNat) signed)

/-- The whole part, cut toward zero; none for infinities and no number. -/
def truncate : Binary64 → Option Int
  | finite negative m q =>
    let whole : Nat := if 0 ≤ q then m * twoTo q.toNat else m / twoTo (-q).toNat
    some (if negative then -(whole : Int) else whole)
  | _ => none

/-- Neither infinite nor no number. -/
def isFinite : Binary64 → Bool
  | finite .. => true
  | _ => false

/-- A finite double without a fractional part. -/
def isWhole : Binary64 → Bool
  | finite _ m q => 0 ≤ q || m % twoTo (-q).toNat == 0
  | _ => false

end Binary64

/-- The double nearest to `mantissa · 2 ^ exponent`, for a mantissa that a double holds exactly. -/
def Decimal.scaleByTwo (mantissa : Nat) (exponent : Int) : Float := (Float.ofNat mantissa).scaleB exponent

end TableSync
