/-
  TableSync/World.lean
  ====================
  **Effects** — what a step of a sync can do besides computing.

  A `World σ` is the clock, the log so far, the sleeps so far and the state `σ`
  of everything else: the store, a source, a catalog.  An `Effect σ α` is a
  function of the world that answers a value or a failure, together with the
  world after it.  What a step did before it failed stays done; a transaction
  of the store is therefore a pure function that answers a new store only when
  it succeeds.  `Effect.within` runs an effect on a part of the state.
-/
import TableSync.Failure.Basic

namespace TableSync

/-! ## 1. The log -/

/-- How much a log line matters. -/
inductive LogLevel where
  | debug
  | info
  | warning
  | error
  | critical
deriving DecidableEq, Repr, Inhabited

/-- The name of a level. -/
def LogLevel.name : LogLevel → String
  | debug => "DEBUG"
  | info => "INFO"
  | warning => "WARNING"
  | error => "ERROR"
  | critical => "CRITICAL"

/-- How much a line of a level matters, as a number. -/
def LogLevel.weight : LogLevel → Nat
  | debug => 10
  | info => 20
  | warning => 30
  | error => 40
  | critical => 50

/-- The part of a sync that a log line comes from. -/
inductive Topic where
  | round
  | coordinator
  | store
  | resume
  | preparation
  | retry
  | catalog
  | recorder
  | transform
  | csv
  | http
  | schedule
  | program
  | database
  | setup
deriving DecidableEq, Repr, Inhabited

/-- The name of a part. -/
def Topic.name : Topic → String
  | round => "sync.round"
  | coordinator => "sync.coordinator"
  | store => "sync.store"
  | resume => "sync.resume"
  | preparation => "sync.preparation"
  | retry => "sync.retry"
  | catalog => "sync.catalog"
  | recorder => "sync.recorder"
  | transform => "sync.transform"
  | csv => "sync.source.csv"
  | http => "sync.source.http"
  | schedule => "sync.schedule"
  | program => "sync.program"
  | database => "sync.database"
  | setup => "sync.setup"

/-- A line of the log. `facts` are the structured details of a failure, if the line has any. -/
structure LogLine where
  level : LogLevel
  topic : Topic
  message : String
  facts : Option Value := none
deriving Inhabited

/-! ## 2. Worlds and effects -/

/-- The clock, the log, the sleeps and the state of everything else. -/
structure World (σ : Type) where
  now : Timestamp
  log : List LogLine := []
  sleeps : List Number := []
  state : σ

/-- A step in a world: a value or a failure, and the world after it. -/
abbrev Effect (σ α : Type) := ExceptT Failure (StateM (World σ)) α

namespace Effect

variable {σ ρ α : Type}

/-- Run a step. -/
def runIn (step : Effect σ α) (world : World σ) : Except Failure α × World σ :=
  StateT.run (ExceptT.run step) world

/-- A step from a function of the world. -/
def of (f : World σ → Except Failure α × World σ) : Effect σ α := ExceptT.mk f

/-- The clock. -/
def now : Effect σ Timestamp := of fun w => (.ok w.now, w)

/-- The state of everything else. -/
def state : Effect σ σ := of fun w => (.ok w.state, w)

/-- Replace the state. -/
def setState (s : σ) : Effect σ Unit := of fun w => (.ok (), { w with state := s })

/-- Write a log line. -/
def log (level : LogLevel) (topic : Topic) (message : String) : Effect σ Unit :=
  of fun w => (.ok (), { w with log := w.log ++ [{ level, topic, message }] })

/-- Write a log line with structured details. -/
def logWith (level : LogLevel) (topic : Topic) (message : String) (facts : Value) : Effect σ Unit :=
  of fun w => (.ok (), { w with log := w.log ++ [{ level, topic, message, facts := some facts }] })

/-- Fail. -/
def fail (failure : Failure) : Effect σ α := of fun w => (.error failure, w)

/-- Sleep by the means that a step was handed for it: the clock moves on, and the sleep is on record. -/
def sleep (seconds : Number) : Effect σ Unit :=
  of fun w => (.ok (), { w with now := w.now.addSeconds seconds, sleeps := w.sleeps ++ [seconds] })

/-- Sleep by the clock itself, which counts in doubles: nothing is slept where the seconds are above them all. -/
def sleepByClock (seconds : Number) : Effect σ Unit :=
  if seconds.isAboveDoubles then fail .tooLarge else sleep seconds

/-- Fail with a fault reported now. -/
def report (kind : FaultKind) (message : String) (context : Fields Value)
    (cause : Option Failure) : Effect σ α :=
  of fun w => (.error (.report kind message context w.now cause), w)

/-- The outcome of a step as a value; the world after it is kept. -/
def attempt (step : Effect σ α) : Effect σ (Except Failure α) :=
  of fun w => let (outcome, w') := step.runIn w; (.ok outcome, w')

/-- An outcome as a step. -/
def ofExcept (outcome : Except Failure α) : Effect σ α := of fun w => (outcome, w)

/-- Run a step on a part of the state. -/
def within (get : σ → ρ) (put : ρ → σ → σ) (step : Effect ρ α) : Effect σ α :=
  of fun w =>
    let (outcome, w') := step.runIn { w with state := get w.state }
    (outcome, { w' with state := put w'.state w.state })

end Effect

end TableSync
