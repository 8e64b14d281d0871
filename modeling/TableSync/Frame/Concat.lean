/-
  TableSync/Frame/Concat.lean
  ===========================
  **Frames below one another** — one frame of the rows of several.

  The columns are those of all frames in the order in which they first occur.
  A column keeps a type that all frames agree on.  Where they differ, truth
  values and whole numbers go into the type of the first frame as numbers; any
  other difference is settled by the least type that holds all values as they
  are.  A frame that lacks the column leaves gaps, and only some types can hold
  these.
-/
import TableSync.Frame.Basic

namespace TableSync

namespace ColumnType

/-- Truth values and whole numbers: types whose values are numbers without a fraction. -/
def isDiscrete : ColumnType → Bool
  | truth | whole | count => true
  | double | text | mixed => false

/-- The least type of numbers that holds two others; only doubles hold both kinds of whole numbers. -/
def promote (a b : ColumnType) : ColumnType :=
  if a = b then a
  else match a, b with
    | .text, _ | _, .text | .mixed, _ | _, .mixed => .mixed
    | .double, _ | _, .double => .double
    | .whole, .count | .count, .whole => .double
    | .truth, other => other
    | other, _ => other

/-- The least type that holds the values of all; truth values do not become numbers. -/
def common (first : ColumnType) (rest : List ColumnType) : ColumnType :=
  let types := first :: rest
  if rest.all (· = first) then first
  else if types.contains .truth then .mixed
  else rest.foldl promote first

/-- The type of the values of several frames one after the other. -/
def stacked (first : ColumnType) (rest : List ColumnType) : ColumnType :=
  if first ≠ .text && rest.all (fun type => type = first || type.isDiscrete) then rest.foldl promote first
  else common first rest

/-- The type with room for missing values. -/
def withGaps : ColumnType → ColumnType
  | truth => mixed
  | whole | count => double
  | type => type

end ColumnType

namespace Frame

/-- The values of one column over all frames. -/
def joinColumn (frames : List Frame) (name : String) : Column :=
  let found := frames.map fun frame => (Fields.get? frame.columns name, frame.height)
  let types := found.filterMap fun part => part.1.map Column.type
  let type := match types with
    | [] => ColumnType.double
    | first :: rest =>
      if types.length = frames.length then ColumnType.stacked first rest else (ColumnType.common first rest).withGaps
  ⟨type, found.flatMap fun (column, height) => match column with
    | some column => (column.convert type).cells
    | none => List.replicate height .missing⟩

/-- The rows of all frames, one frame after the other. -/
def concat (frames : List Frame) : Frame :=
  let names := (frames.flatMap names).eraseDups
  { columns := names.map fun name => (name, joinColumn frames name)
    height := frames.foldr (fun frame n => frame.height + n) 0 }

end Frame

end TableSync
