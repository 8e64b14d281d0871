/-
  TableSync/Decimal/Shortest.lean
  ===============================
  **The fewest digits that read back** — the decimal text of a double.

  A finite double stands for all reals that round to it; of the decimals in
  that interval the text uses one with the fewest digits, and of those the one
  nearest to the double.  `digits?` looks for it grid by grid: on the grid of
  `n`-digit decimals only the double's two neighbours can be the nearest, so
  the first `n` for which one of them lies in the interval answers.  Layout
  (positional or with an exponent, how wide the exponent is) is data of the
  format that writes the number, collected in `Layout`.
-/
import TableSync.Decimal.Binary64
import TableSync.Decimal.Reading

namespace TableSync.Decimal

/-! ## 1. Digits -/

/-- A positive decimal `digits · 10 ^ exponent`. -/
structure Scientific where
  digits : Nat
  exponent : Int
deriving DecidableEq, Repr

/-- The exponent of the leading digit of the positive fraction `a / b`. -/
def leadingExponent (a b : Nat) : Int :=
  if b ≤ a then (length (a / b) : Int) - 1
  else
    let above := (b + a - 1) / a
    Int.negOfNat (length (above - 1))

/-- Of the two neighbours of `a / b` on the grid of multiples of `10 ^ scale`, the nearest one that
lies between `low / b` and `high / b` (ends included when `closed`). A tie goes to the even one. -/
def nearestOnGrid (a low high b : Nat) (closed : Bool) (scale : Int) : Option Scientific :=
  let up : Nat := if 0 ≤ scale then 1 else tenTo (-scale).toNat
  let down : Nat := if 0 ≤ scale then tenTo scale.toNat else 1
  let step := b * down
  let below := a * up / step
  let inside (k : Nat) : Bool :=
    if closed then low * up ≤ k * step && k * step ≤ high * up
    else low * up < k * step && k * step < high * up
  let floorFits := below != 0 && inside below
  let ceilFits := inside (below + 1)
  let twice := 2 * (a * up - below * step)
  let pickFloor :=
    if floorFits && ceilFits then twice < step || (twice == step && below % 2 == 0) else floorFits
  if pickFloor then some ⟨below, scale⟩
  else if ceilFits then some ⟨below + 1, scale⟩
  else none

/-- Drop trailing zeros of the digits, at most `fuel` of them. -/
def stripZeros : Nat → Scientific → Scientific
  | 0, d => d
  | fuel + 1, d =>
    if d.digits ≠ 0 ∧ d.digits % 10 = 0 then stripZeros fuel ⟨d.digits / 10, d.exponent + 1⟩ else d

/-- The shortest decimal that reads back as the positive double `mantissa · 2 ^ exponent`. -/
def shortest (mantissa : Nat) (exponent : Int) : Scientific :=
  -- In units of a quarter of the last place the neighbours' midpoints are whole.
  let atPower := mantissa = twoTo 52 ∧ exponent ≠ -1074
  let unit : Nat := if 2 ≤ exponent then twoTo (exponent - 2).toNat else 1
  let b : Nat := if 2 ≤ exponent then 1 else twoTo (2 - exponent).toNat
  let a := 4 * mantissa * unit
  let high := (4 * mantissa + 2) * unit
  let low := (if atPower then 4 * mantissa - 1 else 4 * mantissa - 2) * unit
  let lead := leadingExponent a b
  let found := (List.range 17).findSome? fun (n : Nat) =>
    nearestOnGrid a low high b (mantissa % 2 == 0) (lead - (n : Int))
  match found with
  | some d => stripZeros 20 d
  | none => ⟨mantissa, 0⟩

/-! ## 2. Layout -/

/-- How a format lays out a double. -/
structure Layout where
  /-- The least exponent of the leading digit that is still written positionally. -/
  positionalFrom : Int
  /-- The first exponent of the leading digit that is no longer written positionally. -/
  positionalBefore : Int
  /-- The fewest digits of a written exponent. -/
  exponentWidth : Nat
  nan : String
  infinity : String

/-- The decimal digits of a number as text. -/
def text (n : Nat) : String := String.ofList (Nat.toDigits 10 n)

/-- Zeros on the left up to a width. -/
def padded (width n : Nat) : String :=
  let digits := Nat.toDigits 10 n
  String.ofList (List.replicate (width - digits.length) '0' ++ digits)

/-- A positive decimal in a layout. A positional number always shows a fractional part. -/
def Layout.positive (layout : Layout) (d : Scientific) : String :=
  let digits := Nat.toDigits 10 d.digits
  let lead : Int := d.exponent + digits.length - 1
  if layout.positionalFrom ≤ lead ∧ lead < layout.positionalBefore then
    if lead < 0 then
      "0." ++ String.ofList (List.replicate (-lead - 1).toNat '0' ++ digits)
    else
      let wholeLength := lead.toNat + 1
      let whole := digits.take wholeLength ++ List.replicate (wholeLength - digits.length) '0'
      let fraction := digits.drop wholeLength
      String.ofList whole ++ "." ++ (if fraction.isEmpty then "0" else String.ofList fraction)
  else
    let mark := if lead < 0 then "e-" else "e+"
    let body := match digits with
      | [] => ""
      | [c] => String.singleton c
      | c :: rest => String.singleton c ++ "." ++ String.ofList rest
    body ++ mark ++ padded layout.exponentWidth lead.natAbs

/-- A double in a layout. -/
def Layout.render (layout : Layout) (x : Float) : String :=
  match Binary64.decode x with
  | .nan => layout.nan
  | .infinite negative => if negative then "-" ++ layout.infinity else layout.infinity
  | .finite negative m q =>
    let sign := if negative then "-" else ""
    if m = 0 then sign ++ "0.0" else sign ++ layout.positive (shortest m q)

end TableSync.Decimal
