/-
  TableSync/Rehearsal/Rounds.lean
  ===============================
  **Rounds in a rehearsal** — a round that runs, is closed and is opened anew.

  Between two rounds the script feeds the source and fills the directory.
  Opening a round anew keeps the store and the source and forgets the rest.
-/
import TableSync.Rehearsal.Descriptions

namespace TableSync

/-- A round that is rehearsed, and the state of its coordinator. -/
structure RoundRehearsal where
  state : CommitState Rehearsal
  round : Option (Round Rehearsal) := none

namespace RoundRehearsal

variable {α : Type}

/-- A step of a round. -/
def inRound (step : RoundStep Rehearsal α) : Effect RoundRehearsal α :=
  Effect.within (fun r => r.state) (fun state r => { r with state }) step

/-- A step outside the round. -/
def change (f : Rehearsal → Rehearsal) : Effect RoundRehearsal Unit :=
  inRound (Coordinator.outside (Rehearsal.modify f))

/-- Open a round over the store as it is; if that fails there is none. -/
def openRound (description : Value) (config : Record) : Effect RoundRehearsal Unit := do
  let outside := (← Effect.state).state.outside
  Effect.setState { state := { outside } }
  let parts ← Effect.ofExcept (Rehearsal.partsOf description config (← Effect.now))
  let round ← inRound (Round.create parts)
  Effect.setState { (← Effect.state) with round := some round }

/-- The round, which must be there. -/
def current : Effect RoundRehearsal (Round Rehearsal) := do
  match (← Effect.state).round with
  | some round => return round
  | none => Effect.fail (.outside .attribute "there is no round" false)

/-- A step of a script: feed the source, put a file, run, close, or open anew with changes to the
configuration. Other steps are none of a round. -/
def perform (description : Value) (step : Value) : Effect RoundRehearsal Value := do
  match Rehearsal.textUnder step "do" with
  | "feed" =>
    change (Rehearsal.feed step)
    return .null
  | "put" =>
    change (Rehearsal.put (Rehearsal.fileOf ((step.part? "file").getD .null)))
    return .null
  | "run" =>
    let round ← current
    let result ← inRound round.run
    match result.toValue with
    | .object fields => return .object (fields ++ [("committed", .bool result.committed)])
    | other => return other
  | "close" =>
    discard current
    inRound Round.close
    return .null
  | "reopen" =>
    openRound description (Fields.putAll (Rehearsal.recordUnder description "config") (Rehearsal.recordUnder step "config"))
    return .null
  | _ => return .null

end RoundRehearsal

end TableSync
