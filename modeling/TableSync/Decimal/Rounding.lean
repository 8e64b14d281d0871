/-
  TableSync/Decimal/Rounding.lean
  ===============================
  **Doubles cut to fewer digits.**

  `significant` keeps a number of leading digits of the exact value, a half
  going to the even digit.  `tenPlaces` keeps ten places after the point, by
  the arithmetic of doubles: very large and very small numbers keep ten
  leading digits instead, and zero never has a sign.
-/
import TableSync.Decimal.Shortest

namespace TableSync.Decimal

/-- The quotient of two whole numbers rounded to the nearest, a half to the even neighbour. -/
def divideHalfEven (a b : Nat) : Nat :=
  let below := a / b
  let twice := 2 * (a % b)
  if twice < b ∨ (twice = b ∧ below % 2 = 0) then below else below + 1

/-- The positive fraction `a / b` as a decimal of `digits` leading digits. -/
def leading (digits : Nat) (a b : Nat) : Scientific :=
  let scale : Int := leadingExponent a b - (digits - 1 : Nat)
  if 0 ≤ scale then ⟨divideHalfEven a (b * tenTo scale.toNat), scale⟩
  else ⟨divideHalfEven (a * tenTo (-scale).toNat) b, scale⟩

/-- A double with only its leading digits. -/
def significant (digits : Nat) (x : Float) : Float :=
  match Binary64.decode x with
  | .finite negative m q =>
    if m = 0 then x
    else
      let kept := if 0 ≤ q then leading digits (m * twoTo q.toNat) 1 else leading digits m (twoTo (-q).toNat)
      let magnitude := toFloat kept.digits kept.exponent
      if negative then -magnitude else magnitude
  | _ => x

/-- The whole part of a double as a whole number. -/
def wholePart (x : Float) : Nat := ((Binary64.decode x).truncate.getD 0).toNat

/-- Whole part and ten places of a positive double; a half goes to the even place. -/
def splitTenPlaces (x : Float) : Nat × Nat :=
  let whole := wholePart x
  let scaled := (x - Float.ofNat whole) * 1e10
  let places := wholePart scaled
  let rest := scaled - Float.ofNat places
  let rounded :=
    if rest > 0.5 then places + 1
    else if rest == 0.5 && (places == 0 || places % 2 == 1) then places + 1
    else places
  if rounded ≥ tenTo 10 then (whole + 1, 0) else (whole, rounded)

/-- A double with ten places after the point. -/
def tenPlaces (x : Float) : Float :=
  let magnitude := x.abs
  if magnitude > 1e16 - 1 || (magnitude != 0 && magnitude < 1e-15) then significant 10 x
  else
    let (whole, places) := splitTenPlaces magnitude
    let rounded := toFloat (whole * tenTo 10 + places) (-10)
    if x < 0 then -rounded else rounded

end TableSync.Decimal
