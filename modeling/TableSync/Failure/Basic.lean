/-
  TableSync/Failure/Basic.lean
  ============================
  **Failures** — a cause, what it was about, and what lies beneath it.

  A `fault` is a failure that the sync reports: a kind, a message, named facts
  in the order in which they read, the moment, and the failure that led to it.
  The moment is itself one of the facts.  `outside` is a failure of something
  beneath; `invalid` is an input that does not fit its description.
  `Failure.text` is the one rendering of all three, and the text of a fault
  includes that of its cause.
-/
import TableSync.Failure.Kind
import TableSync.Timestamp

namespace TableSync

/-- One field of an input that does not fit: where it is and what is wrong with it. -/
structure Violation where
  location : List String
  problem : String
deriving DecidableEq, Repr, Inhabited

/-- What a transient failure suggests to whoever tries again. -/
structure RetryHints where
  maxRetries : Number := .whole 3
  retryDelay : Number := .double 1.0
  retryAfter : Option Number := none
deriving Inhabited

/-- A failure. -/
inductive Failure where
  /-- A failure that the sync reports. -/
  | fault (kind : FaultKind) (message : String) (context : List (String × Value))
      (raisedAt : Timestamp) (hints : RetryHints) (cause : Option Failure)
  /-- A failure of something beneath; `ours` says that this library worded the message. -/
  | outside (kind : OutsideKind) (message : String) (ours : Bool)
  /-- An input that does not fit the description named `model`. -/
  | invalid (model : String) (violations : List Violation)
deriving Inhabited

namespace Failure

/-- The name under which a failure is reported. -/
def name : Failure → String
  | fault kind .. => kind.name
  | outside kind .. => kind.name
  | invalid .. => "ValidationError"

/-- The name under which the moment of a failure stands among its facts. -/
def momentField : String := "error_timestamp"

/-- The facts of a failure reported at a moment: the moment is written over an older one. -/
def contextAt (moment : Timestamp) (context : Fields Value) : Fields Value :=
  context.put momentField (.text moment.iso)

/-- A fault reported at a moment. -/
def report (kind : FaultKind) (message : String) (context : Fields Value) (moment : Timestamp)
    (cause : Option Failure) : Failure :=
  fault kind message (contextAt moment context) moment {} cause

/-- A refusal for too many requests; the wait that was asked for, unless zero, is among the facts. -/
def rateLimited (message : String) (context : Fields Value) (moment : Timestamp)
    (cause : Option Failure) (retryAfter : Option Number) : Failure :=
  let stamped := contextAt moment context
  let facts := match retryAfter with
    | some wait => if wait.isZero then stamped else stamped.put "retry_after" wait.toValue
    | none => stamped
  fault .rateLimit message facts moment { retryAfter := retryAfter } cause

/-- A whole number was to become a double and is above them all. -/
def tooLarge : Failure := outside .overflow "int too large to convert to float" false

/-- A whole number was to be written out and has too many digits. -/
def tooManyDigits : Failure := outside .value "Exceeds the limit for integer string conversion" false

/-- The failure belongs to a class. -/
def isOf (failure : Failure) : FailureClass → Bool
  | .any => true
  | .fault other => match failure with
    | fault kind .. => kind.isA other
    | _ => false
  | .outside other => match failure with
    | fault .. => false
    | outside kind .. => kind.isA other
    | invalid .. => other == .value

/-- The message of a failure on its own. -/
def message : Failure → String
  | fault _ message .. => message
  | outside _ message _ => message
  | invalid model _ => model

/-- The facts of a failure. -/
def context : Failure → Fields Value
  | fault _ _ context .. => context
  | _ => []

/-- The failure that led to this one. -/
def cause? : Failure → Option Failure
  | fault _ _ _ _ _ cause => cause
  | _ => none

/-- The facts as they read in a text. -/
def contextText (context : Fields Value) : String :=
  ", ".intercalate (context.map fun fact => fact.1 ++ "=" ++ fact.2.display)

/-- The text of an input that does not fit: how many fields are wrong, and which. -/
def invalidText (model : String) (violations : List Violation) : String :=
  let n := violations.length
  let head := toString n ++ (if n = 1 then " validation error for " else " validation errors for ") ++ model
  "\n".intercalate (head :: violations.map fun v => ".".intercalate v.location ++ ": " ++ v.problem)

/-- A failure in full: kind, message, facts, and the text of its cause. A failed look-up shows its
message in quotes. -/
def text : Failure → String
  | fault kind message context _ _ cause =>
    let base := kind.name ++ ": " ++ message
    let facts := if context.isEmpty then base else base ++ " | Context: " ++ contextText context
    match cause with
    | none => facts
    | some beneath => facts ++ " | Caused by: " ++ beneath.name ++ ": " ++ beneath.text
  | outside kind message _ => if kind = .key then Text.quoted message else message
  | invalid model violations => invalidText model violations

/-- A failure as a value, for logs and for the audit trail. -/
def toValue : Failure → Value
  | failure@(fault _ message context raisedAt _ cause) =>
    .object [
      ("error_type", .text failure.name),
      ("message", .text message),
      ("context", .object context),
      ("timestamp", .text raisedAt.iso),
      ("original_error", Value.ofText? (cause.map text))]
  | failure => .object [("error_type", .text failure.name)]

end Failure

end TableSync
