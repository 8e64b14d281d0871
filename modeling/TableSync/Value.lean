/-
  TableSync/Value.lean
  ====================
  **Values** — the one dynamic type of the library.

  Records come from files and services whose shape is not known in advance, so
  a record is a tree of values: nothing, truth values, whole numbers of any
  size, binary64 numbers, text, lists and objects.  Whole numbers and binary64
  numbers are kept apart; `1` and `1.0` are equal in a comparison
  (`Value/Order.lean`) and different in text (`Value/Text.lean`).
-/
import TableSync.Fields

namespace TableSync

/-- A value of a record. -/
inductive Value where
  | null
  | bool (b : Bool)
  | int (n : Int)
  | float (x : Float)
  | text (s : String)
  | list (items : List Value)
  | object (fields : List (String × Value))
deriving Inhabited

/-- A raw record: an object's fields in the order in which it was written. -/
abbrev Record := Fields Value

namespace Value

/-- Missing values: null, and the binary64 number that is no number. -/
def isMissing : Value → Bool
  | null => true
  | float x => x.isNaN
  | _ => false

/-- The values that count as "nothing given" where a setting is tested for presence: null, false,
zero, and everything empty. -/
def isBlank : Value → Bool
  | null => true
  | bool b => !b
  | int n => n == 0
  | float x => x == 0.0
  | text s => s.isEmpty
  | list items => items.isEmpty
  | object fields => fields.isEmpty

/-- The value is null. -/
def isNull : Value → Bool
  | null => true
  | _ => false

/-- An optional text as a value. -/
def ofText? : Option String → Value
  | none => null
  | some s => text s

end Value

end TableSync
