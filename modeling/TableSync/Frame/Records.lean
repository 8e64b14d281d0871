/-
  TableSync/Frame/Records.lean
  ============================
  **Frames as records** — one record per row, in values that JSON can hold.

  Numbers keep ten places after the point; missing and infinite ones become
  null.  A frame in which a name repeats has no records.
-/
import TableSync.Frame.Inference
import TableSync.Decimal.Rounding

namespace TableSync

/-- A double as a record holds it. -/
def Value.ofCellDouble (x : Float) : Value :=
  if x.isFinite then .float (Decimal.tenPlaces x) else .null

mutual

/-- The value of a cell as a record holds it. -/
def Value.ofCell : Value → Value
  | .float x => Value.ofCellDouble x
  | .list items => .list (Value.ofCells items)
  | .object fields => .object (Value.ofCellFields fields)
  | value => value

/-- The values of cells as a record holds them. -/
def Value.ofCells : List Value → List Value
  | [] => []
  | cell :: rest => Value.ofCell cell :: Value.ofCells rest

/-- The fields of an object in a cell as a record holds them. -/
def Value.ofCellFields : List (String × Value) → List (String × Value)
  | [] => []
  | (name, cell) :: rest => (name, Value.ofCell cell) :: Value.ofCellFields rest

end

namespace Frame

/-- The first `height` rows of columns. -/
def rows : Nat → List (String × List Value) → List Record
  | 0, _ => []
  | height + 1, columns =>
    columns.map (fun column => (column.1, column.2.headD .missing)) ::
      rows height (columns.map fun column => (column.1, column.2.tail))

/-- The rows of a frame as records. -/
def toRecords (frame : Frame) : Except Failure (List Record) :=
  if frame.isEmpty then .ok []
  else if !frame.namesDiffer then
    .error (.outside .value "DataFrame columns must be unique for orient='records'." false)
  else
    .ok (rows frame.height (frame.columns.map fun column => (column.1, column.2.cells.map Value.ofCell)))

/-- A frame as a value: its columns, its schema and its rows. -/
def toValue (frame : Frame) : Except Failure Value := do
  let schema ← frame.schema derivedName
  let records ← frame.toRecords
  return .object [
    ("columns", .list (frame.names.map .text)),
    ("schema", .list (schema.fields.map SchemaField.toValue)),
    ("records", .list (records.map .object))]

end Frame

end TableSync
