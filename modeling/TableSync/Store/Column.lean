/-
  TableSync/Store/Column.lean
  ===========================
  **Columns** — what the database takes.

  No column takes the character zero, and the columns of keys and partition
  paths have a width.  A document is taken if all its texts and names are and
  if its numbers can be written down: no infinite one, and no whole number of
  too many digits.  A statement that brings anything else fails, and with it
  the transaction that it is part of.
-/
import TableSync.Failure.Basic
import TableSync.Text.Integer

namespace TableSync.Column

/-! ## 1. Values -/

/-- The width of the columns of record keys and partition paths. -/
def width : Nat := 500

/-- A column of texts takes a text. -/
def takesText (s : String) : Bool := !s.toList.contains (Char.ofNat 0)

/-- A column of record keys or partition paths takes a text. -/
def takesKey (s : String) : Bool := takesText s && s.length ≤ width

/-- A column of counts takes a number. -/
def takesCount (n : Int) : Bool := -(twoTo 31 : Int) ≤ n && n < twoTo 31

mutual

/-- A column of documents takes a value. -/
def takes : Value → Bool
  | .null => true
  | .bool _ => true
  | .int n => Text.Integer.isSpellable n
  | .float x => (Binary64.decode x).isFinite
  | .text s => takesText s
  | .list items => takesItems items
  | .object fields => takesFields fields

/-- The items of a list are taken. -/
def takesItems : List Value → Bool
  | [] => true
  | item :: rest => takes item && takesItems rest

/-- The names and the values of an object are taken. -/
def takesFields : List (String × Value) → Bool
  | [] => true
  | (name, value) :: rest => takesText name && takes value && takesFields rest

end

/-- A column of documents takes a map of texts. -/
def takesTexts (fields : Fields String) : Bool := fields.all fun field => takesText field.1 && takesText field.2

/-! ## 2. Statements -/

/-- The failure of a statement that brings what a column does not take. -/
def refused : Failure := .outside .statement "a value does not fit its column" false

end TableSync.Column
