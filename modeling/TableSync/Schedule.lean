/-
  TableSync/Schedule.lean
  =======================
  **Continuous mode** — rounds one after the other, at an interval.

  A schedule hands its job to a timer and waits until it is stopped.  Rounds
  never overlap.  A round that fails stops the schedule; its failure is kept
  and is the outcome of waiting.  The timer is part of the state: which jobs
  it was given, and whether it runs.
-/
import TableSync.Round.Run

namespace TableSync

/-! ## 1. State -/

/-- A job as a timer has it. -/
structure TimerJob where
  id : String
  intervalSeconds : Int
deriving DecidableEq, Repr, Inhabited

/-- What a timer was told. -/
inductive TimerCall where
  | start
  | shutdown
deriving DecidableEq, Repr

/-- A timer: whether it runs, its jobs, and what it was told so far. -/
structure Timer where
  running : Bool := false
  jobs : List TimerJob := []
  calls : List TimerCall := []
deriving DecidableEq, Repr, Inhabited

/-- The state of a schedule beside the state of everything outside it. -/
structure ScheduleState (σ : Type) where
  outside : σ
  timer : Timer := {}
  roundsRun : Nat := 0
  lastResult : Option RoundResult := none
  failure : Option Failure := none
  /-- The signal that ends waiting; there is none before the first start. -/
  stopSignal : Option Bool := none

/-- A schedule of rounds for a table. -/
structure Schedule (σ : Type) where
  tableName : String
  intervalSeconds : Int
  runRound : Effect (ScheduleState σ) RoundResult
  closeRound : Effect (ScheduleState σ) Unit

namespace Schedule

variable {σ α : Type}

/-- A step outside the schedule. -/
def outside (step : Effect σ α) : Effect (ScheduleState σ) α :=
  Effect.within (fun state => state.outside) (fun s state => { state with outside := s }) step

/-- Change the state of the schedule. -/
def modify (change : ScheduleState σ → ScheduleState σ) : Effect (ScheduleState σ) Unit := do
  Effect.setState (change (← Effect.state))

/-- Log a line of the schedule. -/
def say (level : LogLevel) (message : String) : Effect (ScheduleState σ) Unit := Effect.log level .schedule message

/-- The interval that is asked for, else the one of the configuration; at least a second. -/
def interval (asked : Option Int) (config : SyncConfig) : Int := max (asked.getD config.minIntervalSeconds) 1

/-- The schedule of a round. -/
def ofRound (round : Round σ) (asked : Option Int) : Schedule (CommitState σ) :=
  { tableName := round.config.targetTable
    intervalSeconds := interval asked round.config
    runRound := outside round.run
    closeRound := outside Round.close }

/-! ## 2. Start, stop, and the job between them -/

/-- Give the job to the timer and start it. -/
def start (schedule : Schedule σ) : Effect (ScheduleState σ) Unit := do
  modify fun state => { state with
    stopSignal := some false
    timer := {
      running := true
      jobs := state.timer.jobs ++ [⟨"sync_" ++ schedule.tableName, schedule.intervalSeconds⟩]
      calls := state.timer.calls ++ [.start] } }
  say .info ("Sync Scheduler started, interval " ++ toString schedule.intervalSeconds ++ "s")

/-- Stop the timer if it runs, and end waiting. -/
def stop : Effect (ScheduleState σ) Unit := do
  if (← Effect.state).timer.running then
    modify fun state => { state with
      timer := { state.timer with running := false, calls := state.timer.calls ++ [.shutdown] } }
    say .info "Sync Scheduler stopped"
  modify fun state => { state with stopSignal := state.stopSignal.map fun _ => true }

/-- Run one round; a failure stops the schedule. -/
def runJob (schedule : Schedule σ) : Effect (ScheduleState σ) Unit := do
  say .info "Scheduler: Starting sync round"
  match ← schedule.runRound.attempt with
  | .error failure =>
    say .error ("Scheduler: sync round failed, stopping - " ++ failure.text)
    modify fun state => { state with failure := some failure }
    stop
  | .ok result =>
    modify fun state => { state with lastResult := some result, roundsRun := state.roundsRun + 1 }
    say .info ("Scheduler: sync round finished - status=" ++ result.status.name ++ ", checkpoint=" ++
      Value.optionText result.checkpoint)

/-! ## 3. Running until stopped -/

/-- Let the timer fire up to a number of times while it runs. -/
def fire (schedule : Schedule σ) : Nat → Effect (ScheduleState σ) Unit
  | 0 => pure ()
  | times + 1 => do
    if (← Effect.state).timer.running then
      schedule.runJob
      fire schedule times

/-- Start, let the timer fire up to a number of times, and stop. The failure of a round is the outcome. -/
def runUntilStopped (schedule : Schedule σ) (times : Nat) : Effect (ScheduleState σ) Unit := do
  schedule.start
  schedule.fire times
  stop
  schedule.closeRound
  match (← Effect.state).failure with
  | some failure => Effect.fail failure
  | none => pure ()

end Schedule

end TableSync
