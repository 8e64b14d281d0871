/-
  TableSync/Rehearsal/Program.lean
  ================================
  **The program and its schedule in a rehearsal** — scripted outcomes, a timer
  that fires five times.

  A scripted schedule takes the outcomes of its rounds from the script, and may
  be stopped by the last of them.  A rehearsed program runs against the store,
  the directory and the responses of the rehearsal.
-/
import TableSync.Program
import TableSync.Rehearsal.Descriptions

namespace TableSync

/-! ## 1. A schedule of scripted outcomes -/

/-- The outcomes that are still to come, how many were taken, and how often the round was closed. -/
structure ScriptedRounds where
  outcomes : List Value := []
  stopAtLast : Bool := false
  taken : Nat := 0
  closed : Nat := 0
deriving Inhabited

namespace ScriptedRounds

/-- Take the next outcome; the last one may stop the schedule first. -/
def take : Effect (ScheduleState ScriptedRounds) RoundResult := do
  let script := (← Effect.state).outside
  Schedule.modify fun state => { state with outside := { script with outcomes := script.outcomes.drop 1, taken := script.taken + 1 } }
  if script.stopAtLast && script.outcomes.length ≤ 1 then Schedule.stop
  match script.outcomes with
  | [] => Effect.fail (.outside .index "pop from empty list" false)
  | outcome :: _ =>
    match outcome.part? "raise" with
    | some failure => Effect.fail (.ofValue (← Effect.now) failure)
    | none => Effect.ofExcept ((RoundResult.read (Rehearsal.recordUnder outcome "result")).toExcept "SyncRoundResult")

/-- Count a closing. -/
def close : Effect (ScheduleState ScriptedRounds) Unit :=
  Schedule.modify fun state => { state with outside := { state.outside with closed := state.outside.closed + 1 } }

/-- The schedule of scripted rounds. -/
def schedule (tableName : String) (intervalSeconds : Int) : Schedule ScriptedRounds :=
  { tableName, intervalSeconds, runRound := take, closeRound := close }

end ScriptedRounds

/-- How often the timer of a rehearsal fires. -/
def Rehearsal.timerCalls : Nat := 5

/-- A step of a schedule by its name. -/
def Schedule.step {σ : Type} (schedule : Schedule σ) (name : String) : Effect (ScheduleState σ) Unit :=
  match name with
  | "start" => schedule.start
  | "stop" => Schedule.stop
  | "run_sync_job" => schedule.runJob
  | "run_until_stopped" => schedule.runUntilStopped Rehearsal.timerCalls
  | _ => pure ()

/-! ## 2. A program -/

namespace Rehearsal

/-- The directory of a rehearsal. -/
def directoryPath : String := "<dir>/in"

/-- The services of a rehearsal; it has one directory, and the files that are named. -/
def services (files : Fields String) : Services Rehearsal :=
  { store := tableStore
    recorder
    transport
    listing := fun path => if path = directoryPath then listing else pure none
    content := fun path => pure (Fields.get? files path) }

/-- Run the program with settings, after the files and responses of a description are added. -/
def runProgram (description : Value) : Effect Rehearsal Nat := do
  let files := match description.part? "files" with
    | some (.list files) => files.map fileOf
    | _ => []
  modify fun r => files.foldl (fun r file => r.put file) r
  modify fun r => { r with responses := r.responses ++ (match description.part? "responses" with
    | some (.list responses) => responses
    | _ => []) }
  let named := Fields.putAll [("CSV_SOURCE_DIR", .text directoryPath)] (recordUnder description "settings")
  let settings ← Effect.ofExcept (Settings.ofRecord named)
  Program.run (services []) settings timerCalls

end Rehearsal

end TableSync
