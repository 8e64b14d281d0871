/-
  TableSync/Frame/Inference.lean
  ==============================
  **The type of a column** — found from its values, in order.

  Values are looked at one after the other.  Truth values have a type of their
  own only among themselves; whole numbers keep one as long as all fit 64 bits
  with a sign or all fit without one; a null or a missing value turns numbers
  into doubles, and a null ends the test of sizes for what follows it.
  Anything else makes a column of texts, or a mixed one.
-/
import TableSync.Frame.Basic
import TableSync.Value.Order

namespace TableSync

/-! ## 1. What has been seen -/

/-- Which values a column has shown so far. -/
structure Sightings where
  null : Bool := false
  gap : Bool := false
  truth : Bool := false
  double : Bool := false
  whole : Bool := false
  negative : Bool := false
  large : Bool := false
  other : Bool := false
deriving DecidableEq, Repr, Inhabited

namespace Sightings

/-- The least and the greatest whole number with a sign, and the greatest without. -/
def leastWhole : Int := -9223372036854775808
def greatestWhole : Int := 9223372036854775807
def greatestCount : Int := 18446744073709551615

/-- One more whole number; its size counts unless a null came before it. -/
def addWhole (seen : Sightings) (n : Int) : Sightings :=
  let seen := { seen with whole := true }
  if seen.null then seen
  else
    let seen := { seen with
      negative := seen.negative || (leastWhole ≤ n && n < 0)
      large := seen.large || (greatestWhole < n && n ≤ greatestCount) }
    { seen with other := (seen.large && seen.negative) || greatestCount < n || n < leastWhole }

/-- One more value. -/
def add (seen : Sightings) : Value → Sightings
  | .null => { seen with null := true }
  | .bool _ => { seen with truth := true }
  | .int n => seen.addWhole n
  | .float x => if x.isNaN then { seen with gap := true } else { seen with double := true }
  | _ => { seen with other := true }

/-- Look at values up to the first that settles that the column is no column of numbers. -/
def ofCells (seen : Sightings) : List Value → Sightings
  | [] => seen
  | cell :: rest =>
    let seen := seen.add cell
    if seen.other then seen else ofCells seen rest

/-- The type of numbers or truth values that was seen; none for any other column. -/
def numeric? (seen : Sightings) : Option ColumnType :=
  if seen.other then none
  else if seen.truth then
    if seen.null || seen.gap || seen.double || seen.whole then none else some .truth
  else if seen.null || seen.gap then
    if seen.double || seen.whole || seen.gap then some .double else none
  else if seen.double then some .double
  else if seen.whole then some (if seen.large then .count else .whole)
  else none

end Sightings

/-! ## 2. Columns and frames from values -/

/-- A value that is a text. -/
def Value.isText : Value → Bool
  | .text _ => true
  | _ => false

namespace Column

/-- The type of a column of the given values. -/
def typeOf (cells : List Value) : ColumnType :=
  match (Sightings.ofCells {} cells).numeric? with
  | some type => type
  | none =>
    if cells.any Value.isText && cells.all fun cell => cell.isText || cell.isMissing then .text else .mixed

/-- The column of the given values. -/
def ofCells (cells : List Value) : Column :=
  match typeOf cells with
  | .double => ⟨.double, cells.map Value.asDouble⟩
  | .text => ⟨.text, cells.map fun cell => if cell.isNull then .missing else cell⟩
  | type => ⟨type, cells⟩

end Column

namespace Frame

/-- The names of the fields of records, in the order in which they first occur. -/
def fieldNames (records : List Record) : List String := (records.flatMap Fields.names).eraseDups

/-- The frame of a list of records; a field that a record lacks is missing in its row. -/
def ofRecords (records : List Record) : Frame :=
  let names := fieldNames records
  { columns := names.map fun name =>
      (name, Column.ofCells (records.map fun record => (Fields.get? record name).getD .missing))
    height := if names.isEmpty then 0 else records.length }

end Frame

end TableSync
