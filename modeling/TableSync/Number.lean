/-
  TableSync/Number.lean
  =====================
  **Numbers as they are given** — whole or binary64.

  Delays, limits and ordering values keep the form in which they were given:
  a delay of `1` and one of `1.0` wait as long and read differently.
-/
import TableSync.Text.Integer
import TableSync.Value.Text

namespace TableSync

/-- A number, whole or binary64. -/
inductive Number where
  | whole (n : Int)
  | double (x : Float)
deriving Inhabited

namespace Number

/-- The exact order of two numbers; none when one of them is no number. -/
def compare? : Number → Number → Option Ordering
  | whole a, whole b => some (compare a b)
  | whole a, double y => (Binary64.decode y).compareInt a
  | double x, whole b => ((Binary64.decode x).compareInt b).map Ordering.swap
  | double x, double y =>
    if x < y then some .lt else if y < x then some .gt else if x == y then some .eq else none

/-- The number as a value. -/
def toValue : Number → Value
  | whole n => .int n
  | double x => .float x

/-- The number that a value is. -/
def ofValue? : Value → Option Number
  | .int n => some (whole n)
  | .float x => some (double x)
  | _ => none

/-- The number in a message. -/
def text (n : Number) : String := n.toValue.literal

/-- The double nearest to a number. -/
def toFloat : Number → Float
  | whole n => Float.ofInt n
  | double x => x

/-- The number cut to its whole part; an infinite one or no number gives zero. -/
def truncate : Number → Int
  | whole n => n
  | double x => (Binary64.decode x).truncate.getD 0

/-- The whole part of a number; an infinite one and no number have none. -/
def wholePart? : Number → Option Int
  | whole n => some n
  | double x => (Binary64.decode x).truncate

/-- The number doubled `k` times; a double only as often as the power of two is a double itself. -/
def doubled (k : Nat) : Number → Option Number
  | whole n => some (whole (n * twoTo k))
  | double x => if k < 1024 then some (double (x * Float.ofNat (twoTo k))) else none

/-- A whole number that rounds to no double, being above them all. -/
def isAboveDoubles : Number → Bool
  | whole n => (twoTo 1024 : Int) - twoTo 970 ≤ n
  | double _ => false

/-- The number can be written out, as every double can. -/
def isSpellable : Number → Bool
  | whole n => Text.Integer.isSpellable n
  | double _ => true

/-- Zero, of either form. -/
def isZero : Number → Bool
  | whole n => n == 0
  | double x => x == 0.0

end Number

end TableSync
