/-
  TableSync/Log.lean
  ==================
  **Log lines in text** — formats, levels, and the facts of a failure.

  A format names the parts of a line (`%(message)s`).  A message may have places
  of its own for its arguments.  After the line stand the facts of the failure
  that it tells of, as JSON.
-/
import TableSync.World
import TableSync.Json.Writer
import TableSync.Log.Template
import TableSync.Text.Case

namespace TableSync.Log

/-! ## 1. Messages and lines -/

/-- A message with its arguments; without arguments it stands as it is. -/
def message (text : String) (arguments : List Value) : Except Failure String :=
  if arguments.isEmpty then .ok text else fillPlaces text (.ofValues arguments)

/-- A character of the name of a part of a line. -/
def isNameChar (c : Char) : Bool := c.isAlphanum || c == '_'

/-- A place with a name at the start of a text. -/
def startsWithPart (cs : List Char) : Bool :=
  match cs with
  | '%' :: rest =>
    match placeName? rest with
    | some (name, after) =>
      let letter := (place? after).map fun place => place.1.conversion
      !name.isEmpty && name.all isNameChar && letter.any conversionChars.contains
    | none => false
  | _ => false

/-- A place with a name somewhere in a text. -/
def hasPart : List Char → Bool
  | [] => false
  | c :: rest => startsWithPart (c :: rest) || hasPart rest

/-- A format names at least one part of a line; an empty format shows the message. -/
def checkedFormat (format : String) : Except Failure String :=
  if format.isEmpty then .ok "%(message)s"
  else if hasPart format.toList then .ok format
  else .error (.outside .value "the format names no part of a line" false)

/-- A line in a format, with the facts of a failure at its end unless there are none. -/
def line (format : String) (parts : Fields Value) (facts : Value) : Except Failure String := do
  let base ← match fillPlaces (← checkedFormat format) ⟨[.object parts], some parts⟩ with
    | .error (.outside .key message ours) => .error (.outside .value message ours)
    | filled => filled
  return if facts.isBlank then base else base ++ " | context=" ++ Json.write Json.logged facts

/-- The format of the program's own log. -/
def standardFormat : String := "%(asctime)s | %(levelname)-8s | %(name)s | %(message)s"

/-! ## 2. Levels -/

/-- The least level of the lines that are shown. -/
inductive Threshold where
  | everything
  | least (level : LogLevel)
deriving DecidableEq, Repr

/-- The name of a threshold. -/
def Threshold.name : Threshold → String
  | everything => "NOTSET"
  | least level => level.name

/-- The lines that a threshold lets through. -/
def Threshold.admits : Threshold → LogLevel → Bool
  | everything, _ => true
  | least floor, level => floor.weight ≤ level.weight

/-- The thresholds by name. -/
def thresholds : List (String × Threshold) :=
  [("NOTSET", .everything), ("DEBUG", .least .debug), ("INFO", .least .info), ("WARN", .least .warning),
   ("WARNING", .least .warning), ("ERROR", .least .error), ("CRITICAL", .least .critical),
   ("FATAL", .least .critical)]

/-- Names that stand for something else than a level. -/
def reserved : Fields OutsideKind := [("BASIC_FORMAT", .value), ("_STYLES", .type)]

/-- The parts of the system underneath whose lines are shown only from warnings on. -/
def quietBelowWarning : List String := ["store.statements", "store.connections", "schedule.timer"]

/-- The threshold that a name asks for, in any case of letters; an unknown name asks for information. -/
def threshold (asked : Option String) (default : String) : Except Failure (String × Threshold) :=
  let chosen := match asked with
    | some name => if name.isEmpty then default else name
    | none => default
  let name := Text.upper chosen
  match Fields.get? reserved name with
  | some kind => .error (.outside kind ("Unknown level: " ++ Text.quoted name) false)
  | none => .ok (name, (Fields.get? thresholds name).getD (.least .info))

/-- A line of the log as the program writes it at a moment. -/
def standardLine (now : Timestamp) (logged : LogLine) : Except Failure String :=
  let parts := [("asctime", .text now.clockText), ("levelname", .text logged.level.name),
    ("name", .text logged.topic.name), ("message", .text logged.message)]
  line standardFormat parts (logged.facts.getD .null)

/-- What is logged once logging is set up. -/
def configured (levelName : String) : String := "Sync service logging configured at " ++ levelName ++ " level"

end TableSync.Log
