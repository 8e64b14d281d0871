/-
  TableSync/Main.lean
  ===================
  **The command line** — settings from the environment, deliveries on standard
  input.

  `sync` runs the program once for every line of standard input.  A line is a
  delivery in JSON: the files that arrive in the source directory, the
  responses that services give, and settings that hold for this run alone.
  `setup` sets the store up.  Log lines go to standard output; the exit code is
  the one of the last run.
-/
import Std.Time.DateTime.Timestamp
import TableSync.Log
import TableSync.Rehearsal.Program

namespace TableSync.CommandLine

/-! ## 1. The process -/

/-- The clock of the machine. -/
def clock : IO Timestamp := do
  let moment ← Std.Time.Timestamp.now
  return .ofEpochMicros (moment.toNanosecondsSinceUnixEpoch.val / 1000)

/-- The settings that the environment names, but for the source directory: deliveries have their own. -/
def environment : IO Record := do
  let names := Settings.names.filter fun name => name != "CSV_SOURCE_DIR"
  let found ← names.mapM fun name => do return (name, ← IO.getEnv name)
  return found.filterMap fun setting => setting.2.map fun text => (setting.1, .text text)

/-- The level that settings ask for, by name and as a threshold. -/
def levelOf (settings : Record) : String × Log.Threshold :=
  let asked := match Fields.get? settings "LOG_LEVEL" with
    | some (.text name) => some name
    | _ => none
  match Log.threshold asked "INFO" with
  | .ok level => level
  | .error _ => ("INFO", .least .info)

/-- Print the lines of a log that a threshold lets through. -/
def tell (threshold : Log.Threshold) (now : Timestamp) (lines : List LogLine) : IO Unit :=
  lines.forM fun line => do
    if threshold.admits line.level then
      match Log.standardLine now line with
      | .ok text => IO.println text
      | .error failure => IO.eprintln failure.text

/-- Tell at which level the log is kept. -/
def announceLevel (settings : Record) : IO Unit := do
  let (name, threshold) := levelOf settings
  tell threshold (← clock) [{ level := .info, topic := .setup, message := Log.configured name }]

/-! ## 2. Runs -/

/-- A delivery with the settings of the environment below its own. -/
def delivered (settings : Record) (delivery : Value) : Value :=
  .object [
    ("settings", .object (Fields.putAll settings (Rehearsal.recordUnder delivery "settings"))),
    ("files", (delivery.part? "files").getD .null),
    ("responses", (delivery.part? "responses").getD .null)]

/-- Run the program for one delivery; its exit code, and everything outside after it. -/
def runDelivery (settings : Record) (outside : Rehearsal) (delivery : Value) : IO (UInt32 × Rehearsal) := do
  let now ← clock
  let (outcome, after) := (Rehearsal.runProgram (delivered settings delivery)).runIn { now, state := outside }
  tell (levelOf settings).2 now after.log
  match outcome with
  | .ok code => return (UInt32.ofNat code, after.state)
  | .error failure =>
    IO.eprintln failure.text
    return (1, after.state)

/-- Run the program for every line of standard input. -/
partial def serve (settings : Record) (input : IO.FS.Stream) (outside : Rehearsal) (code : UInt32) : IO UInt32 := do
  let line ← input.getLine
  if line.isEmpty then return code
  match Json.read? line with
  | none =>
    IO.eprintln "A delivery is one line of JSON"
    serve settings input outside 1
  | some delivery =>
    let (code, outside) ← runDelivery settings outside delivery
    serve settings input outside code

/-- Set the store up. -/
def setUp (settings : Record) : IO UInt32 := do
  let now ← clock
  let step : Effect Unit Unit := Program.setUp
  tell (levelOf settings).2 now (step.runIn { now, state := () }).2.log
  return 0

end TableSync.CommandLine

/-- Run the command that is asked for. -/
def main (arguments : List String) : IO UInt32 := do
  let settings ← TableSync.CommandLine.environment
  TableSync.CommandLine.announceLevel settings
  match arguments with
  | ["setup"] => TableSync.CommandLine.setUp settings
  | [] | ["sync"] => TableSync.CommandLine.serve settings (← IO.getStdin) {} 0
  | _ =>
    IO.eprintln "The commands are: sync, setup"
    return 2
