/-
  TableSync/Transform.lean
  ========================
  **Transformations of a batch** — rows between their source and their table.

  A transformation keeps the rows that a filter wants, or applies others one
  after the other.  A filter may be left to the properties of the sync.  An
  empty batch passes a filter as it is, so a filter is not even read then.
-/
import TableSync.Filter.Eval

namespace TableSync

/-! ## 1. Transformations -/

/-- A transformation of rows. -/
inductive Transformation where
  /-- Keep the rows that a filter wants; without one, the filter of the properties. -/
  | filter (text : Option String)
  /-- One after the other. -/
  | chain (steps : List Transformation)
deriving Inhabited

/-- What a sync does with a batch of rows, given its properties. -/
abbrev Transformer (σ : Type) := Frame → Record → Effect σ Frame

namespace Transformation

variable {σ : Type}

/-- The name of a transformation. -/
def name : Transformation → String
  | filter _ => "QueryTransformer"
  | chain _ => "ChainedTransformer"

/-- The property that holds the filter of a transformation without one. -/
def filterProperty : String := "transformer.query"

/-- The filter that is in force. -/
def filterIn (text : Option String) (props : Record) : Value :=
  match text with
  | some s => if s.isEmpty then (Fields.get? props filterProperty).getD .null else .text s
  | none => (Fields.get? props filterProperty).getD .null

/-- The rows that a filter wants; only a text is a filter. -/
def filtered (filter : Value) (frame : Frame) : Except Failure Filter.Picked :=
  match filter with
  | .text s => Filter.rowsOf s frame
  | _ => .error (.outside .value "a filter is a text" false)

/-- Tell how many rows of a batch were kept. -/
def tellKept (height : Nat) (frame : Frame) : Effect σ Unit :=
  Effect.log .info .transform ("Query transformer kept " ++ toString height ++ "/" ++ toString frame.height ++ " rows")

/-- Keep the rows that the filter in force wants. -/
def applyFilter (text : Option String) : Transformer σ := fun frame props => do
  let filter := filterIn text props
  if filter.isBlank then
    Effect.report .configuration "QueryTransformer needs a query expression" [("property", .text filterProperty)] none
  else if frame.isEmpty then return frame
  else match filtered filter frame with
    | .error cause =>
      Effect.report .transformation "Query transformation failed"
        [("query", filter), ("columns", .list (frame.names.map .text))] (some cause)
    | .ok (.oneRow _) =>
      tellKept frame.columns.length frame
      Effect.fail (.outside .attribute "a single row is no batch" false)
    | .ok (.rows kept) =>
      tellKept kept.height frame
      return kept

mutual

/-- Transform a batch. -/
def apply : Transformation → Transformer σ
  | filter text => applyFilter text
  | chain steps => applyAll steps

/-- Transform a batch by one step after the other. -/
def applyAll : List Transformation → Transformer σ
  | [] => fun frame _ => pure frame
  | step :: rest => fun frame props => do applyAll rest (← apply step frame props) props

end

/-! ## 2. Transformations by name -/

/-- What a name that settings may use stands for. -/
inductive Named where
  | transformation (step : Transformation)
  /-- Something that cannot be made from its name alone, and why. -/
  | incomplete (reason : String)

/-- The names that settings may use, by the module that holds them. -/
def modules : Fields (Fields Named) :=
  [("streamer.transformers",
    [("QueryTransformer", .transformation (.filter none)),
     ("ChainedTransformer", .incomplete
        "ChainedTransformer.__init__() missing 1 required positional argument: 'transformers'"),
     ("Transformer", .incomplete "Can't instantiate abstract class Transformer with abstract method apply"),
     ("load_transformers", .incomplete "load_transformers() missing 1 required positional argument: 'class_names'")]),
   ("streamer", [("transformers", .incomplete "'module' object is not callable")])]

/-- The module and the last part of a name. -/
def splitName (name : String) : String × String :=
  let parts := Text.split '.' name
  (".".intercalate parts.dropLast, parts.getLast?.getD "")

/-- What a name stands for, or why it stands for nothing. -/
def find (name : String) : Except Failure Named :=
  let (module, last) := splitName name
  if module.isEmpty then .error (.outside .value "Empty module name" false)
  else if module.startsWith "." then .ok (.incomplete "a relative name needs a place to start from")
  else match Fields.get? modules module with
    | none => .error (.outside .moduleNotFound ("No module named " ++ Text.quoted module) false)
    | some names =>
      match Fields.get? names last with
      | none => .error (.outside .attribute ("module " ++ Text.quoted module ++ " has no attribute " ++ Text.quoted last) false)
      | some named => .ok named

/-- The transformation of a name. -/
def ofName (name : String) (now : Timestamp) : Except Failure Transformation :=
  match find name with
  | .error cause =>
    .error (.report .configuration ("Could not load transformer class " ++ name) [("class_name", .text name)] now (some cause))
  | .ok (.incomplete reason) => .error (.outside .type reason false)
  | .ok (.transformation step) => .ok step

/-- The transformation of several names: none of none, that of one, or a chain. -/
def ofNames (names : List String) (now : Timestamp) : Except Failure (Option Transformation) := do
  match ← names.mapM (fun name => ofName name now) with
  | [] => return none
  | [step] => return some step
  | steps => return some (.chain steps)

/-- How many transformations are chained. -/
def length : Transformation → Nat
  | filter _ => 1
  | chain steps => steps.length

end Transformation

end TableSync
