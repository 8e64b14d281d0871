/-
  TableSync/Filter/Question.lean
  ==============================
  **Questions to columns, and functions of numbers.**

  A filter can ask a column whether values are missing, whether they are among
  others or between two, what they come to together, and what its texts are
  like.  A function of numbers works on a column row by row.
-/
import TableSync.Filter.Operand
import TableSync.Text.Split
import TableSync.Text.Case

namespace TableSync.Filter

/-- The failure of a question that cannot be asked. -/
def noQuestion : Failure := .outside .attribute "there is no such question" false

/-! ## 1. Texts -/

/-- A pattern without its marks for the beginning and the end of a text, and whether it has them. -/
def anchors (pattern : List Char) : Bool × List Char × Bool :=
  let (atStart, rest) := match pattern with
    | '^' :: rest => (true, rest)
    | rest => (false, rest)
  if rest.getLast? = some '$' then (atStart, rest.dropLast, true) else (atStart, rest, false)

/-- The characters begin as a pattern says, in which a point is any character, and end with it if they must. -/
def beginsLike (toEnd : Bool) : List Char → List Char → Bool
  | [], cs => !toEnd || cs.isEmpty
  | p :: pattern, c :: cs => (p == '.' || p == c) && beginsLike toEnd pattern cs
  | _ :: _, [] => false

/-- Some part of the characters is as an alternative of a pattern says. -/
def isLike (alternative cs : List Char) : Bool :=
  let (atStart, pattern, toEnd) := anchors alternative
  if atStart then beginsLike toEnd pattern cs
  else (List.range (cs.length + 1)).any fun start => beginsLike toEnd pattern (cs.drop start)

/-- A text has a part like one of the alternatives of a pattern. -/
def hasLike (pattern : String) (s : String) : Bool :=
  (Text.splitChars '|' pattern.toList).any fun alternative => isLike alternative s.toList

/-- A question to a column about one text, whose answers have a type; a missing text has a given answer. -/
def textQuestion (type : ColumnType) (onMissing : Value) (answer : String → Value) (column : Column) :
    Except Failure Operand :=
  if column.type == .text then
    .ok (.column ⟨type, column.cells.map fun cell => match cell with
      | .text s => answer s
      | _ => onMissing⟩)
  else .error (.outside .attribute "only a column of texts can be asked about its texts" false)

/-- A test of every text of a column; a missing text fails it. -/
def textTest (test : String → Bool) (column : Column) : Except Failure Operand :=
  textQuestion .truth (.bool false) (fun s => .bool (test s)) column

/-- The lengths of the texts of a column; they are doubles if one is missing. -/
def textLengths (column : Column) : Except Failure Operand :=
  if column.cells.any Value.isMissing then
    textQuestion .double .missing (fun s => .float (Float.ofNat s.length)) column
  else textQuestion .whole .missing (fun s => .int s.length) column

/-- A text without regard to the case of letters. -/
def caseless (s : String) : String := Text.lower s

/-! ## 2. All values together -/

/-- The numbers of a column that are there. -/
def present (column : Column) : List Value := column.cells.filter fun cell => !cell.isMissing

/-- The value before which, or after which, no other one of a column comes. -/
def extreme (precedes : Value → Value → Bool) (column : Column) : Value :=
  match present column with
  | [] => .missing
  | first :: rest => rest.foldl (fun best v => if precedes v best then v else best) first

/-- The sum of a column of numbers. -/
def total (column : Column) : Except Failure Value :=
  if column.type == .double then .ok (.float ((present column).foldl (fun sum v => sum + doubleOf v) 0.0))
  else if isNumeric column.type then .ok (.int (wrapped ((present column).foldl (fun sum v => sum + wholeOf v) 0)))
  else .error mismatch

/-- The mean of a column of numbers. -/
def mean (column : Column) : Except Failure Value :=
  let there := present column
  if isNumeric column.type then
    .ok (.float (there.foldl (fun sum v => sum + doubleOf v) 0.0 / Float.ofNat there.length))
  else .error mismatch

/-! ## 3. Questions -/

/-- Whether values are missing. -/
def missingness (column : Column) (negated : Bool) : Operand :=
  .column ⟨.truth, column.cells.map fun cell => .bool (cell.isMissing != negated)⟩

/-- Whether values are between two others, those included. -/
def between (column : Column) (low high : Operand) : Except Failure Operand := do
  logical .both (← compareRows .greaterEqual (.column column) low) (← compareRows .lessEqual (.column column) high)

/-- The comparisons that can be asked for by name. -/
def comparisonNames : Fields Comparison :=
  [("eq", .equal), ("ne", .notEqual), ("lt", .less), ("le", .lessEqual), ("gt", .greater), ("ge", .greaterEqual)]

/-- The questions to a column about its texts. -/
def askText (question : String) (column : Column) (arguments : List Operand) : Except Failure Operand :=
  match question, arguments with
  | "startswith", [.single (.text s)] => textTest (fun t => t.startsWith s) column
  | "endswith", [.single (.text s)] => textTest (fun t => t.endsWith s) column
  | "contains", [.single (.text s)] => textTest (hasLike s) column
  | "contains", [.single (.text s), .named "case" (.single (.bool case))] =>
    textTest (fun t => if case then hasLike s t else hasLike (caseless s) (caseless t)) column
  | "contains", [.single (.text s), .named "na" _] => textTest (hasLike s) column
  | "contains", [.single (.text s), .named "regex" (.single (.bool false))] =>
    textTest (fun t => s.isEmpty || 1 < (t.splitOn s).length) column
  | "len", [] => textLengths column
  | "lower", [] => textQuestion .text .missing (fun s => .text (Text.lower s)) column
  | "upper", [] => textQuestion .text .missing (fun s => .text (Text.upper s)) column
  | "strip", [] => textQuestion .text .missing (fun s => .text (Text.strip s)) column
  | _, _ => .error noQuestion

/-- The questions to a column without arguments. -/
def askPlain (question : String) (column : Column) : Except Failure Operand :=
  match question with
  | "isnull" | "isna" => .ok (missingness column false)
  | "notnull" | "notna" => .ok (missingness column true)
  | "abs" =>
    if isNumeric column.type then
      .ok ((Operand.column column).map fun v => match v with
        | .float x => .float x.abs
        | .int n => .int (wrapped n.natAbs)
        | v => v)
    else .error mismatch
  | "max" => .ok (.single (extreme (fun v best => best.less? v == some true) column))
  | "min" => .ok (.single (extreme (fun v best => v.less? best == some true) column))
  | "sum" => do return .single (← total column)
  | "mean" => do return .single (← mean column)
  | "count" => .ok (.single (.int (present column).length))
  | _ => .error noQuestion

/-- The questions that a column can be asked. -/
def ask (question : List String) (subject : Operand) (arguments : List Operand) : Except Failure Operand :=
  match subject, question, arguments with
  | .column c, ["str", inner], arguments => askText inner c arguments
  | .column c, ["isin"], [.several values] => .ok (membership c values false)
  | .column c, ["isin"], [.column d] => .ok (membership c d.cells false)
  | .column _, ["isin"], [.single _] => .error mismatch
  | .column c, ["between"], [low, high] => between c low high
  | .column c, ["item"], [.single (.int n)] =>
    if 0 ≤ n && n < c.cells.length then .ok (.single (c.cells[n.toNat]?.getD .missing))
    else .error (.outside .key "there is no such row" false)
  | .column c, [name], [] => askPlain name c
  | .column c, [name], [other] =>
    match Fields.get? comparisonNames name with
    | some op => compareRows op (.column c) other
    | none => .error noQuestion
  | _, _, _ => .error noQuestion

/-- The numbers of rows. -/
def rowNumbers (height : Nat) : Column := ⟨.whole, (List.range height).map fun (place : Nat) => Value.int place⟩

/-- The parts of a column. -/
def part (path : List String) (subject : Operand) : Except Failure Operand :=
  match subject, path with
  | .column c, ["values"] => .ok (.column c)
  | .column c, ["size"] => .ok (.single (.int c.cells.length))
  | .column c, ["empty"] => .ok (.single (.bool c.cells.isEmpty))
  | .column c, ["index"] => .ok (.column (rowNumbers c.cells.length))
  | _, _ => .error noQuestion

/-! ## 4. Functions -/

/-- The functions of a number. -/
def functions : Fields (Float → Float) :=
  [("sin", Float.sin), ("cos", Float.cos), ("tan", Float.tan), ("exp", Float.exp), ("log", Float.log),
   ("expm1", fun x => Float.exp x - 1.0), ("log1p", fun x => Float.log (1.0 + x)), ("sqrt", Float.sqrt),
   ("sinh", Float.sinh), ("cosh", Float.cosh), ("tanh", Float.tanh), ("arcsin", Float.asin), ("arccos", Float.acos),
   ("arctan", Float.atan), ("arccosh", Float.acosh), ("arcsinh", Float.asinh), ("arctanh", Float.atanh),
   ("abs", Float.abs), ("log10", Float.log10), ("floor", Float.floor), ("ceil", Float.ceil)]

/-- The functions that leave whole numbers whole. -/
def wholeFunctions : List String := ["abs", "floor", "ceil"]

/-- There is a function of a name. -/
def hasFunction (name : String) : Bool := Fields.has functions name || name == "arctan2"

/-- A function of operands. -/
def call (function : String) (arguments : List Operand) : Except Failure Operand :=
  match Fields.get? functions function, arguments with
  | some f, [operand] =>
    if !isNumeric operand.type then .error mismatch
    else if wholeFunctions.contains function && operand.type != .double then
      .ok (operand.map fun v => if function = "abs" then .int (wholeOf v).natAbs else v)
    else rowwise .double (fun x _ => .ok (.float (f (doubleOf x)))) operand (.single .null)
  | none, [left, right] =>
    if isNumeric left.type && isNumeric right.type then
      rowwise .double (fun y x => .ok (.float (Float.atan2 (doubleOf y) (doubleOf x)))) left right
    else .error mismatch
  | _, _ => .error mismatch

end TableSync.Filter
