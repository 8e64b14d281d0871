/-
  TableSync/Frame/Basic.lean
  ==========================
  **Frames** — a batch as typed columns.

  A `Frame` holds the values of each column beside each other, and every column
  has one type.  A missing value is the double that is no number, so a column
  of whole numbers with a gap is a column of doubles.  Column names may repeat;
  only the operations that need to tell columns apart refuse such a frame.
-/
import TableSync.Schema
import TableSync.Value.Order

namespace TableSync

/-! ## 1. Columns -/

/-- The type of the values of a column. -/
inductive ColumnType where
  /-- Truth values. -/
  | truth
  /-- Whole numbers of 64 bits with a sign. -/
  | whole
  /-- Whole numbers of 64 bits without a sign. -/
  | count
  /-- Binary64 numbers. -/
  | double
  /-- Texts. -/
  | text
  /-- Values of any kind. -/
  | mixed
deriving DecidableEq, Repr, Inhabited

/-- The name of a column's type in a schema. -/
def ColumnType.schemaName : ColumnType → String
  | truth => "boolean"
  | whole | count => "long"
  | double => "double"
  | text | mixed => "string"

/-- The values of a column, from the first row to the last. -/
structure Column where
  type : ColumnType
  cells : List Value
deriving Inhabited

/-- A missing value. -/
def Value.missing : Value := .float (0.0 / 0.0)

/-- A value as a binary64 number; what is no number is missing. -/
def Value.asDouble (value : Value) : Value :=
  match value.number? with
  | some n => .float n.toFloat
  | none => .missing

/-- A truth value as zero or one. -/
def Value.asWhole : Value → Value
  | .bool b => .int (if b then 1 else 0)
  | value => value

namespace Column

/-- The values of a column in another type. -/
def convert (column : Column) (type : ColumnType) : Column :=
  if column.type = type then column
  else match type with
    | .double => ⟨type, column.cells.map Value.asDouble⟩
    | .whole | .count => ⟨type, column.cells.map Value.asWhole⟩
    | .truth | .text | .mixed => ⟨type, column.cells⟩

/-- A column without any value. -/
def missing (height : Nat) : Column := ⟨.double, List.replicate height .missing⟩

end Column

/-- The values at which a mask is true. -/
def kept {α : Type} : List Bool → List α → List α
  | true :: mask, a :: rest => a :: kept mask rest
  | false :: mask, _ :: rest => kept mask rest
  | _, _ => []

/-! ## 2. Frames -/

/-- A batch as typed columns, and its number of rows. -/
structure Frame where
  columns : List (String × Column) := []
  height : Nat := 0
deriving Inhabited

namespace Frame

/-- The names of the columns in order. -/
def names (frame : Frame) : List String := frame.columns.map Prod.fst

/-- A frame without a column or without a row. -/
def isEmpty (frame : Frame) : Bool := frame.columns.isEmpty || frame.height == 0

/-- The columns of a frame all have different names. -/
def namesDiffer (frame : Frame) : Bool := frame.names.eraseDups.length == frame.names.length

/-- Change every column. -/
def mapColumns (change : Column → Column) (frame : Frame) : Frame :=
  { frame with columns := frame.columns.map fun column => (column.1, change column.2) }

/-- Change the name of every column. -/
def rename (change : String → String) (frame : Frame) : Frame :=
  { frame with columns := frame.columns.map fun column => (change column.1, column.2) }

/-- The rows at which a mask is true. -/
def keepRows (mask : List Bool) (frame : Frame) : Frame :=
  { frame.mapColumns fun column => { column with cells := kept mask column.cells } with
    height := (kept mask (List.range frame.height)).length }

/-- The rows at the given places, in that order. -/
def pickRows (places : List Nat) (frame : Frame) : Frame :=
  { frame.mapColumns fun column =>
      { column with cells := places.map fun place => column.cells[place]?.getD .missing } with
    height := places.length }

/-- A frame with the given columns: those that it lacks have no values. -/
def reindex (names : List String) (frame : Frame) : Except Failure Frame :=
  if frame.names = names then .ok frame
  else if !frame.namesDiffer then
    .error (.outside .value "cannot reindex on an axis with duplicate labels" false)
  else
    .ok { frame with columns := names.map fun name =>
      (name, (Fields.get? frame.columns name).getD (Column.missing frame.height)) }

/-! ## 3. Schemas -/

/-- The schema that a frame has by itself. -/
def schema (name : String) (frame : Frame) : Except Failure TableSchema := do
  let fields ← frame.columns.mapM fun column =>
    (SchemaField.read [("name", .text column.1), ("type", .text column.2.type.schemaName),
      ("nullable", .bool true)]).toExcept "SchemaField"
  return { name, fields }

/-- The name of a schema derived from a batch unless another one is given. -/
def derivedName : String := "record"

/-- A provider of the schema that a frame has by itself. -/
def provider (name : String) (frame : Frame) : Except Failure SchemaProvider := do
  return { source := ← frame.schema name }

end Frame

end TableSync
