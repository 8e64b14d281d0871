/-
  TableSync/Retry.lean
  ====================
  **Bounded retry** — a fixed number of attempts, a fixed sleep between two.

  Only failures of the policy's classes are tried again; any other failure, and
  the failure of the last attempt, is the outcome.  The number of attempts is
  positive by construction.
-/
import TableSync.World

namespace TableSync

/-- How often and after which failures an operation is attempted. -/
structure RetryPolicy where
  maxAttempts : Nat
  delay : Number
  retryOn : List FailureClass
  maxAttempts_pos : 0 < maxAttempts

namespace RetryPolicy

/-- A policy from settings; there must be at least one attempt. -/
def ofSettings (maxAttempts : Int) (delay : Number) (retryOn : List FailureClass) :
    Except Failure RetryPolicy :=
  if h : 1 ≤ maxAttempts then .ok ⟨maxAttempts.toNat, delay, retryOn, by omega⟩
  else .error (.outside .value ("max_attempts must be >= 1, got " ++ toString maxAttempts) true)

/-- A failure after which the policy tries again. -/
def retries (policy : RetryPolicy) (failure : Failure) : Bool := policy.retryOn.any failure.isOf

/-- The message of a failure after the last attempt. -/
def givingUp (description : String) (attempt : Nat) (failure : Failure) : String :=
  "Giving up on " ++ description ++ " after " ++ toString attempt ++ " attempts: " ++ failure.text

/-- The message of a failure before another attempt. -/
def tryingAgain (policy : RetryPolicy) (description : String) (attempt : Nat) (failure : Failure) : String :=
  "Got error trying to " ++ description ++ " (attempt " ++ toString attempt ++ "/" ++
    toString policy.maxAttempts ++ "). Retrying after sleeping for " ++ policy.delay.text ++ "s: " ++ failure.text

/-- Attempt an operation for the `attempt`th time, with `left` more attempts allowed after it. -/
def attemptFrom {σ α : Type} (policy : RetryPolicy) (operation : Effect σ α) (description : String) :
    Nat → Nat → Effect σ α
  | left, attempt => do
    match ← operation.attempt with
    | .ok a => return a
    | .error failure =>
      if policy.retries failure then
        match left with
        | 0 => do
          Effect.log .error .retry (givingUp description attempt failure)
          Effect.fail failure
        | left + 1 => do
          Effect.log .error .retry (policy.tryingAgain description attempt failure)
          Effect.sleep policy.delay
          attemptFrom policy operation description left (attempt + 1)
      else Effect.fail failure

/-- Attempt an operation until it succeeds, fails for good, or the attempts run out. -/
def run {σ α : Type} (policy : RetryPolicy) (operation : Effect σ α) (description : String) : Effect σ α :=
  attemptFrom policy operation description (policy.maxAttempts - 1) 1

/-- Starting a commit: three attempts, one second apart, only for a race on the timeline. -/
def commitStart : RetryPolicy := ⟨3, .double 1.0, [.fault .instantState], by decide⟩

end RetryPolicy

end TableSync
