/-
  TableSync/Value/Order.lean
  ==========================
  **Comparing values** — equality and the strict order.

  Truth values count as 0 and 1, and whole numbers and doubles are compared
  exactly, so no precision is lost beyond `2 ^ 53`.  Texts are ordered by code
  point and lists item by item.  Everything else, and every mixture of kinds,
  is equal or not but has no order: `Value.less?` answers none.
-/
import TableSync.Value
import TableSync.Number

namespace TableSync.Value

/-! ## 1. Numbers -/

/-- The number that a value counts as. -/
def number? : Value → Option Number
  | bool b => some (.whole (if b then 1 else 0))
  | int n => some (.whole n)
  | float x => some (.double x)
  | _ => none

/-! ## 2. Equality -/

mutual

/-- Equality of values across the kinds of numbers. No number equals itself only if it is one. -/
def equals : Value → Value → Bool
  | null, null => true
  | text a, text b => a == b
  | list xs, list ys => equalLists xs ys
  | object fs, object gs => fs.length == gs.length && fieldsWithin fs gs
  | a, b =>
    match number? a, number? b with
    | some m, some n => m.compare? n == some .eq
    | _, _ => false

/-- Item by item equality. -/
def equalLists : List Value → List Value → Bool
  | [], [] => true
  | x :: xs, y :: ys => equals x y && equalLists xs ys
  | _, _ => false

/-- Every field has an equal one under the same name. -/
def fieldsWithin : List (String × Value) → List (String × Value) → Bool
  | [], _ => true
  | (name, value) :: rest, gs =>
    (match Fields.get? gs name with
      | some other => equals value other
      | none => false) && fieldsWithin rest gs

end

/-! ## 3. Order -/

mutual

/-- The strict order; none where two values have none. -/
def less? : Value → Value → Option Bool
  | text a, text b => some (decide (a < b))
  | list xs, list ys => lessLists? xs ys
  | a, b =>
    match number? a, number? b with
    | some m, some n => some (m.compare? n == some .lt)
    | _, _ => none

/-- The first unequal items decide; of two lists one of which begins the other, the shorter is less. -/
def lessLists? : List Value → List Value → Option Bool
  | [], [] => some false
  | [], _ :: _ => some true
  | _ :: _, [] => some false
  | x :: xs, y :: ys => if equals x y then lessLists? xs ys else less? x y

end

/-! ## 4. Values without an order -/

/-- The name of the kind of a value in a message. -/
def kindName : Value → String
  | null => "NoneType"
  | bool _ => "bool"
  | int _ => "int"
  | float _ => "float"
  | text _ => "str"
  | list _ => "list"
  | object _ => "dict"

mutual

/-- The kinds of the two values because of which two values have no order. -/
def clash : Value → Value → String × String
  | list xs, list ys => clashLists xs ys
  | a, b => (a.kindName, b.kindName)

/-- The kinds of the first unequal items. -/
def clashLists : List Value → List Value → String × String
  | x :: xs, y :: ys => if equals x y then clashLists xs ys else clash x y
  | _, _ => ("list", "list")

end

/-- The message that two values have no order. -/
def noOrder (a b : Value) : String :=
  let (left, right) := clash a b
  "'<' not supported between instances of '" ++ left ++ "' and '" ++ right ++ "'"

end TableSync.Value
