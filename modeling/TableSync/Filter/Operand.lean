/-
  TableSync/Filter/Operand.lean
  =============================
  **What the parts of a row filter come to** — single values, lists, columns.

  An operator works on columns row by row and takes a single value for every
  row.  Whole numbers wrap at 64 bits, dividing by zero gives what doubles
  give, and a missing value equals nothing.  Kinds that an operator cannot
  bring together are a failure, whatever the rows hold.
-/
import TableSync.Filter.Expr
import TableSync.Frame.Inference
import TableSync.Decimal.Binary64

namespace TableSync.Filter

/-- What an expression comes to. -/
inductive Operand where
  | single (value : Value)
  | several (values : List Value)
  | column (column : Column)
  /-- An argument by its name. -/
  | named (name : String) (value : Operand)
deriving Inhabited

/-- The failure of operands that do not go together. -/
def mismatch : Failure := .outside .type "the operands do not go together" false

/-- The failure of an operation that filters do not have. -/
def notOffered : Failure := .outside .unsupported "the operation is not offered" false

/-! ## 1. Kinds -/

/-- The type of the column that a single value would make. -/
def typeOfValue : Value → ColumnType
  | .bool _ => .truth
  | .int n => if Sightings.greatestWhole < n && n ≤ Sightings.greatestCount then .count else .whole
  | .float _ => .double
  | .text _ => .text
  | _ => .mixed

namespace Operand

/-- The type of the values of an operand. -/
def type : Operand → ColumnType
  | single value => typeOfValue value
  | several values => Column.typeOf values
  | column c => c.type
  | named .. => .mixed

/-- An operand that is the same for every row. -/
def isSingle : Operand → Bool
  | single _ => true
  | _ => false

/-- A list. -/
def isSeveral : Operand → Bool
  | several _ => true
  | _ => false

end Operand

/-- A type of numbers, truth values among them. -/
def isNumeric : ColumnType → Bool
  | .truth | .whole | .count | .double => true
  | .text | .mixed => false

/-- Work row by row; the result is a column if one of the operands is. -/
def rowwise (type : ColumnType) (f : Value → Value → Except Failure Value) (left right : Operand) :
    Except Failure Operand := do
  let pairwise (xs ys : List Value) : Except Failure Operand := do
    if xs.length ≠ ys.length then throw (.outside .value "the lengths differ" false)
    return .column ⟨type, ← (xs.zip ys).mapM fun pair => f pair.1 pair.2⟩
  match left, right with
  | .single a, .single b => return .single (← f a b)
  | .column c, .single b => return .column ⟨type, ← c.cells.mapM fun a => f a b⟩
  | .single a, .column c => return .column ⟨type, ← c.cells.mapM fun b => f a b⟩
  | .column c, .column d => pairwise c.cells d.cells
  | .column c, .several bs => pairwise c.cells bs
  | .several as, .column d => pairwise as d.cells
  | _, _ => throw mismatch

/-! ## 2. Comparisons -/

/-- Compare two values; a missing one differs from everything and is in no order. -/
def compareValues (op : Comparison) (a b : Value) : Except Failure Value :=
  if a.isMissing || b.isMissing then .ok (.bool (op == .notEqual))
  else
    let ordered (less : Option Bool) (negated : Bool) : Except Failure Value := match less with
      | some l => .ok (.bool (l != negated))
      | none => .error mismatch
    match op with
    | .equal => .ok (.bool (a.equals b))
    | .notEqual => .ok (.bool (!a.equals b))
    | .less => ordered (a.less? b) false
    | .greaterEqual => ordered (a.less? b) true
    | .greater => ordered (b.less? a) false
    | .lessEqual => ordered (b.less? a) true
    | .within | .notWithin => .error mismatch

/-- Two types that have an order between them. -/
def haveOrder (a b : ColumnType) : Bool :=
  a == .mixed || b == .mixed || (isNumeric a == isNumeric b)

/-- Null in a filter stands for a missing value. -/
def isNullSingle : Operand → Bool
  | .single v => v.isMissing
  | _ => false

/-- Which rows of a column are among some values. -/
def membership (column : Column) (values : List Value) (negated : Bool) : Operand :=
  .column ⟨.truth, column.cells.map fun cell =>
    .bool ((values.any fun value => cell.equals value || (cell.isMissing && value.isMissing)) != negated)⟩

/-- Which rows of one operand are in the other; for a single value, whether it is the number of a row. -/
def within (left right : Operand) (negated : Bool) : Except Failure Operand :=
  match left, right with
  | .column c, .several values => .ok (membership c values negated)
  | .column c, .column d => .ok (membership c d.cells negated)
  | .several values, .column c => .ok (membership c values negated)
  | .single v, .several values => .ok (.single (.bool ((values.any v.equals) != negated)))
  | .several _, .several _ => .ok (.single (.bool negated))
  | .single v, .column c =>
    let places := (List.range c.cells.length).map fun (place : Nat) => Value.int place
    .ok (.single (.bool ((places.any v.equals) != negated)))
  | _, _ => .error mismatch

/-- A text is a list of one in a test of two terms for equality or membership. -/
def listed : Operand → Operand
  | .single (.text s) => .several [.text s]
  | operand => operand

/-- An operand that makes a test for equality one for membership. -/
def isListed : Operand → Bool
  | .several _ => true
  | .single (.text _) => true
  | _ => false

/-- Compare operands row by row. -/
def compareRows (op : Comparison) (left right : Operand) : Except Failure Operand :=
  let tests := op == .equal || op == .notEqual
  if tests || isNullSingle left || isNullSingle right || haveOrder left.type right.type then
    rowwise .truth (compareValues op) left right
  else .error mismatch

/-- Compare operands. Two terms of which one is a list are equal where one is among the other. -/
def comparison (op : Comparison) (terms : Bool) (left right : Operand) : Except Failure Operand :=
  let (a, b) := if terms then (listed left, listed right) else (left, right)
  let member := terms && (isListed left || isListed right)
  match op with
  | .within => within a b false
  | .notWithin => within a b true
  | .equal => if member then within a b false else compareRows op left right
  | .notEqual => if member then within a b true else compareRows op left right
  | _ => compareRows op left right

/-! ## 3. Numbers -/

/-- A whole number wrapped to 64 bits with a sign. -/
def wrapped (n : Int) : Int := Int.bmod n (twoTo 64)

/-- A power of whole numbers, wrapped to 64 bits, by repeated squaring. -/
def powerWrapped (base : Int) : Nat → Nat → Int
  | 0, _ => 1
  | fuel + 1, n =>
    if n = 0 then 1
    else
      let half := powerWrapped base fuel (n / 2)
      let square := wrapped (half * half)
      if n % 2 = 0 then square else wrapped (square * base)

/-- The remainder of doubles with the sign of the divisor. -/
def doubleRemainder (x y : Float) : Float :=
  if y == 0.0 || !x.isFinite || y.isNaN then 0.0 / 0.0
  else if !y.isFinite then (if x == 0.0 || (x < 0) == (y < 0) then x else y)
  else
    -- The remainder is exact in whole multiples of the smaller unit.
    match Binary64.decode x, Binary64.decode y with
    | .finite nx mx qx, .finite ny my qy =>
      let unit := min qx qy
      let a : Nat := mx * twoTo (qx - unit).toNat
      let b : Nat := my * twoTo (qy - unit).toNat
      let r := a % b
      let magnitude := if nx == ny || r == 0 then r else b - r
      let value := Decimal.scaleByTwo magnitude unit
      if ny then -value else value
    | _, _ => 0.0 / 0.0

/-- Divide doubles down to a whole number. -/
def doubleDivideDown (x y : Float) : Float :=
  if y == 0.0 then x / y else ((x - doubleRemainder x y) / y).round

/-- An operation on doubles. -/
def onDoubles (op : Arithmetic) (x y : Float) : Float :=
  match op with
  | .add => x + y
  | .subtract => x - y
  | .multiply => x * y
  | .divide => x / y
  | .divideDown => doubleDivideDown x y
  | .remainder => doubleRemainder x y
  | .power => Float.pow x y

/-- An operation on whole numbers whose result is one. -/
def onWholes (op : Arithmetic) (a b : Int) : Int :=
  match op with
  | .add => wrapped (a + b)
  | .subtract => wrapped (a - b)
  | .multiply => wrapped (a * b)
  | .divideDown => Int.fdiv a b
  | .remainder => Int.fmod a b
  | .power => powerWrapped a 64 b.toNat
  | .divide => 0

/-- The whole number that a value counts as. -/
def wholeOf (value : Value) : Int := ((value.number?.map Number.truncate)).getD 0

/-- The double that a value counts as. -/
def doubleOf (value : Value) : Float := ((value.number?.map Number.toFloat)).getD (0.0 / 0.0)

/-- The values of an operand. -/
def Operand.values : Operand → List Value
  | single value => [value]
  | several values => values
  | column c => c.cells
  | named _ value => value.values

/-- An operation on numbers; whole numbers stay whole unless they are divided, or divided by zero. -/
def numbers (op : Arithmetic) (left right : Operand) : Except Failure Operand :=
  let (a, b) := (left.type, right.type)
  let byZero := (op == .divideDown || op == .remainder) && right.values.any fun v => doubleOf v == 0.0
  let down := op == .divideDown || op == .remainder
  let mixedSigns := (a == .count) != (b == .count) && !left.isSingle && !right.isSingle
  if a == .truth && b == .truth && (op == .subtract || op == .divideDown || op == .remainder || op == .power) then
    .error mismatch
  else if down && byZero && left.isSingle && right.isSingle then
    .error (.outside .zeroDivision "division by zero" false)
  else if a == .double || b == .double || op == .divide || byZero || mixedSigns then
    rowwise .double (fun x y => .ok (.float (onDoubles op (doubleOf x) (doubleOf y)))) left right
  else if op == .power && right.values.any (fun v => wholeOf v < 0) then
    .error (.outside .value "whole numbers have no negative powers" false)
  else if a == .truth && b == .truth then
    rowwise .truth (fun x y => .ok (.bool (wholeOf x * wholeOf y == 1 || (op == .add && wholeOf x + wholeOf y == 1))))
      left right
  else
    let type := if a == .count || b == .count then ColumnType.count else .whole
    rowwise type (fun x y => .ok (.int (onWholes op (wholeOf x) (wholeOf y)))) left right

/-- Texts one after the other. -/
def joined (a b : Value) : Except Failure Value :=
  match a, b with
  | .text s, .text t => .ok (.text (s ++ t))
  | _, _ => if a.isMissing || b.isMissing then .ok .missing else .error mismatch

/-- An operation on numbers or texts. -/
def arithmetic (op : Arithmetic) (left right : Operand) : Except Failure Operand :=
  if left.isSeveral || right.isSeveral then .error mismatch
  else if isNumeric left.type && isNumeric right.type then numbers op left right
  else if op == .add && left.type == .text && right.type == .text then rowwise .text joined left right
  else .error mismatch

/-! ## 4. Truth -/

/-- How truth values are put together. -/
inductive Junction where
  | both
  | either
deriving DecidableEq, Repr

/-- Two truth values together. -/
def Junction.onTruths : Junction → Bool → Bool → Bool
  | both, a, b => a && b
  | either, a, b => a || b

/-- Two whole numbers together, bit by bit. -/
def Junction.onBits : Junction → Int64 → Int64 → Int64
  | both, a, b => a &&& b
  | either, a, b => a ||| b

/-- A column of truth values that may be missing. -/
def isDoubtful : Operand → Bool
  | .column c => c.type == .mixed && c.cells.all fun cell => cell.isMissing || (cell matches .bool _)
  | _ => false

/-- Both or either of two operands, row by row: of truth values, or bit by bit of whole numbers. A row whose left
truth value is missing is false; on the right a missing one counts as false. -/
def logical (junction : Junction) (left right : Operand) : Except Failure Operand :=
  let (a, b) := (left.type, right.type)
  let truths (x y : Value) : Except Failure Value :=
    .ok (.bool (junction.onBits (Int64.ofInt (wholeOf x)) (Int64.ofInt (wholeOf y)) != 0))
  if a == .truth && b == .truth then
    rowwise .truth (fun x y => .ok (.bool (junction.onTruths (wholeOf x == 1) (wholeOf y == 1)))) left right
  else if left.isSingle || right.isSingle then .error notOffered
  else if (a == .truth && b == .whole) || (a == .whole && b == .truth) then rowwise .truth truths left right
  else if a == .whole && b == .whole then
    rowwise .whole (fun x y =>
      .ok (.int (junction.onBits (Int64.ofInt (wholeOf x)) (Int64.ofInt (wholeOf y))).toInt)) left right
  else if (a == .truth || isDoubtful left) && (b == .truth || isDoubtful right) then
    rowwise .truth (fun x y => .ok (.bool (!x.isMissing &&
      junction.onTruths (wholeOf x == 1) (!y.isMissing && wholeOf y == 1)))) left right
  else .error mismatch

/-- Change every value of an operand. -/
def Operand.map (f : Value → Value) : Operand → Operand
  | single value => single (f value)
  | several values => several (values.map f)
  | column c => column { c with cells := c.cells.map f }
  | named name value => named name value

/-- A sign in front of an operand. In front of a column of truth values a minus is a negation; a truth value by
itself counts as a number. -/
def signed (sign : Sign) (operand : Operand) : Except Failure Operand :=
  let negate (v : Value) : Value := match v with
    | .float x => .float (-x)
    | v => .int (wrapped (-(wholeOf v)))
  let complement (v : Value) : Value := .int (-(wholeOf v) - 1)
  let opposite (v : Value) : Value := .bool (wholeOf v == 0)
  match sign, operand.type with
  | .plus, .whole | .plus, .count | .plus, .double => .ok operand
  | .minus, .whole | .minus, .count | .minus, .double => .ok (operand.map negate)
  | .negation, .whole => .ok (operand.map complement)
  | .plus, .truth => .ok (if operand.isSingle then operand.map Value.asWhole else operand)
  | .minus, .truth => .ok (operand.map (if operand.isSingle then negate else opposite))
  | .negation, .truth => .ok (operand.map (if operand.isSingle then complement else opposite))
  | _, _ => .error mismatch

end TableSync.Filter
