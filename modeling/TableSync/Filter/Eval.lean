/-
  TableSync/Filter/Eval.lean
  ==========================
  **Filtering the rows of a frame.**

  The names in a filter are columns, the number of the row, or one of a few
  named numbers; a name that is none of them is a failure before anything is
  computed, and so is a form that filters do not have.  What the filter comes
  to is a truth value per row, or the numbers of the rows that are wanted.
-/
import TableSync.Filter.Question
import TableSync.Text.Quoted
import TableSync.Text.Split

namespace TableSync.Filter

/-! ## 1. Names -/

/-- The names for the number of a row. -/
def rowNumberNames : List String := ["index", "ilevel_0"]

/-- Numbers with names; they come before columns. -/
def namedNumbers : Fields Value := [("inf", .float (1.0 / 0.0)), ("Inf", .float (1.0 / 0.0))]

/-- What a name stands for: a named number, a column (of columns of one name the last), or the row numbers. -/
def resolve? (frame : Frame) (name : String) : Option Operand :=
  match Fields.get? namedNumbers name with
  | some value => some (.single value)
  | none =>
    match Fields.get? frame.columns.reverse name with
    | some column => some (.column column)
    | none => if rowNumberNames.contains name then some (.column (rowNumbers frame.height)) else none

/-- The failure of a name that stands for nothing. -/
def undefined (name : String) : Failure := .outside .undefinedVariable ("name " ++ Text.quoted name ++ " is not defined") false

mutual

/-- Every name of an expression stands for something, and every form of it is one that filters have. The first
failure from the left is the one that counts, parts before the whole. -/
def check (frame : Frame) : Expr → Except Failure Unit
  | .literal _ => .ok ()
  | .name s => if (resolve? frame s).isSome then .ok () else .error (undefined s)
  | .outer s => .error (undefined s)
  | .list items => checkAll frame items
  | .signed _ operand => check frame operand
  | .arithmetic _ left right | .compare _ left right | .both left right | .either left right => do
    check frame left
    check frame right
  | .ask _ subject arguments => do
    check frame subject
    checkAll frame arguments
  | .part _ subject => check frame subject
  | .call function arguments =>
    if (resolve? frame function).isSome then .error mismatch
    else if hasFunction function then checkAll frame arguments
    else .error (.outside .value ("there is no function " ++ Text.quoted function) false)
  | .named _ value => check frame value
  | .foreign kind parts => do
    checkAll frame parts
    throw (.outside kind "a filter has no such form" false)

/-- Check expressions from left to right. -/
def checkAll (frame : Frame) : List Expr → Except Failure Unit
  | [] => .ok ()
  | e :: rest => do
    check frame e
    checkAll frame rest

end

/-! ## 2. Values of expressions -/

mutual

/-- What an expression comes to over the rows of a frame. -/
def evaluate (frame : Frame) : Expr → Except Failure Operand
  | .literal value => .ok (.single value)
  | .name s =>
    match resolve? frame s with
    | some operand => .ok operand
    | none => .error (undefined s)
  | .outer s => .error (undefined s)
  | .list items => do return .several ((← evaluateAll frame items).flatMap Operand.values)
  | .signed sign operand => do signed sign (← evaluate frame operand)
  | .arithmetic op left right => do arithmetic op (← evaluate frame left) (← evaluate frame right)
  | .compare op left right => do
    comparison op (left.isTerm && right.isTerm) (← evaluate frame left) (← evaluate frame right)
  | .both left right => do logical .both (← evaluate frame left) (← evaluate frame right)
  | .either left right => do logical .either (← evaluate frame left) (← evaluate frame right)
  | .ask question subject arguments => do
    if subject.isTerm then ask question (← evaluate frame subject) (← evaluateAll frame arguments)
    else throw noQuestion
  | .part path subject => do
    if subject.isTerm then part path (← evaluate frame subject) else throw noQuestion
  | .call function arguments => do call function (← evaluateAll frame arguments)
  | .named name value => do return .named name (← evaluate frame value)
  | .foreign kind _ => .error (.outside kind "a filter has no such form" false)

/-- What expressions come to. -/
def evaluateAll (frame : Frame) : List Expr → Except Failure (List Operand)
  | [] => .ok []
  | e :: rest => do
    let first ← evaluate frame e
    return first :: (← evaluateAll frame rest)

end

/-! ## 3. Rows -/

/-- The failure of rows that are not there. -/
def noSuchRows : Failure := .outside .key "there are no such rows" false

/-- The place of a row by its number. -/
def placeOf (height : Nat) (value : Value) : Except Failure Nat :=
  match value.number? with
  | some n =>
    if n.compare? (.whole n.truncate) == some .eq && 0 ≤ n.truncate && n.truncate < height then
      .ok n.truncate.toNat
    else .error noSuchRows
  | none => .error noSuchRows

/-- A value is a truth value. -/
def isTruth : Value → Bool
  | .bool _ => true
  | _ => false

/-- The rows that a column picks: by truth values, or by the numbers of rows. -/
def pick (frame : Frame) (column : Column) : Except Failure Frame :=
  if column.cells.all isTruth then
    if column.cells.length = frame.height then
      .ok (frame.keepRows (column.cells.map fun cell => cell matches .bool true))
    else .error (.outside .index "there is not one truth value for every row" false)
  else if column.cells.all fun cell => isTruth cell || cell.isMissing then
    if column.cells.any isTruth then .error (.outside .value "a truth value is missing" false) else .error noSuchRows
  else do return frame.pickRows (← column.cells.mapM (placeOf frame.height))

/-- What a filter leaves: rows, or one row by itself, which is no frame any more. -/
inductive Picked where
  | rows (frame : Frame)
  | oneRow (place : Nat)

/-- What the value of a filter leaves. -/
def pickBy (frame : Frame) : Operand → Except Failure Picked
  | .column column => do return .rows (← pick frame column)
  | .several [] => .ok (.rows (frame.keepRows []))
  | .several values => do return .rows (← pick frame ⟨.mixed, values⟩)
  | .single value => do
    if isTruth value then throw noSuchRows
    return .oneRow (← placeOf frame.height value)
  | .named .. => .error noSuchRows

/-! ## 4. Filters in text -/

/-- The failure of a text that is no expression. -/
def unreadable : Failure := .outside .syntaxFault "the filter cannot be read" false

/-- The expression of a line. -/
def parseLine (line : String) : Except Failure Expr :=
  if !isBalanced line then .error (.outside .tokenFault "a bracket is not closed" false)
  else match tokens? line with
    | none => .error unreadable
    | some (.name _ :: .sign "=" :: rest) =>
      if (Expr.ofTokens? rest).isSome then .error (.outside .value "a filter cannot assign" false) else .error unreadable
    | some tokens =>
      match Expr.ofTokens? tokens with
      | some e => .ok e
      | none => if isStatement tokens then .ok (.foreign .unsupported []) else .error unreadable

/-- The rows of a frame that a filter wants. A blank filter names no row. -/
def rowsOf (text : String) (frame : Frame) : Except Failure Picked := do
  match (Text.lines text).map Text.strip |>.filter fun line => !line.isEmpty with
  | [] => throw noSuchRows
  | [line] =>
    let e ← parseLine line
    check frame e
    pickBy frame (← evaluate frame e)
  | _ => throw (.outside .value "a filter is one line" false)

end TableSync.Filter
