/-
  TableSync/Failure/Reading.lean
  ==============================
  **Failures from descriptions** — for rehearsing what may go wrong.

  A description names a kind, a message, facts and a cause.  The failure that it
  describes happens at the moment at which it is read.
-/
import TableSync.Failure.Basic

namespace TableSync

/-- The class of failures of a name. -/
def FailureClass.ofName? (name : String) : Option FailureClass :=
  if name = FailureClass.any.name then some .any
  else match FaultKind.all.find? fun kind => kind.name == name with
    | some kind => some (.fault kind)
    | none => (OutsideKind.all.find? fun kind => kind.name == name).map .outside

namespace Failure

/-- The number under a name, if it is one. -/
def numberUnder? (record : Record) (name : String) : Option Number :=
  (Fields.get? record name).bind Number.ofValue?

/-- What a description may say about trying again. -/
def hintNames : List String := ["max_retries", "retry_delay", "retry_after"]

/-- The hints that a kind of failure takes. -/
def hintsOf (kind : FaultKind) : List String :=
  if kind = .rateLimit then ["retry_after"]
  else if kind.isA .retryable then ["max_retries", "retry_delay"]
  else []

/-- A fault of a kind with what a description says about trying again, which the kind must take. -/
def described (kind : FaultKind) (message : String) (context : Fields Value) (cause : Option Failure)
    (record : Record) (now : Timestamp) : Failure :=
  if hintNames.any fun name => Fields.has record name && !(hintsOf kind).contains name then
    .outside .type (kind.name ++ " does not take these hints") false
  else if kind = .rateLimit then rateLimited message context now cause (numberUnder? record "retry_after")
  else
    let hints : RetryHints := {}
    fault kind message (contextAt now context) now
      { maxRetries := (numberUnder? record "max_retries").getD hints.maxRetries
        retryDelay := (numberUnder? record "retry_delay").getD hints.retryDelay } cause

mutual

/-- The failure that a description names, at a moment. -/
def ofValue (now : Timestamp) : Value → Failure
  | .object fields =>
    let text (name : String) : String := match Fields.get? fields name with
      | some (.text s) => s
      | _ => ""
    let context := match Fields.get? fields "context" with
      | some (.object facts) => facts
      | _ => []
    match FailureClass.ofName? (text "kind") with
    | some (.fault kind) => described kind (text "message") context (causeIn now fields) fields now
    | some (.outside kind) => .outside kind (text "message") true
    | _ => .outside .runtime (text "message") true
  | _ => .outside .runtime "" true

/-- The cause that is described among the fields. -/
def causeIn (now : Timestamp) : List (String × Value) → Option Failure
  | [] => none
  | (name, value) :: rest =>
    if name = "cause" then (if value.isNull then none else some (ofValue now value)) else causeIn now rest

end

end Failure

end TableSync
