/-
  TableSync/Csv/Directory.lean
  ============================
  **A directory of files as a source** — read in the order of modification.

  The checkpoint is the latest modification time that was read, in
  milliseconds.  A round reads the files after it, the oldest first, within a
  budget of bytes, and puts their rows below one another.  Names of columns
  are normalised once all files are together.
-/
import TableSync.Csv.Typing
import TableSync.Csv.Window
import TableSync.Frame.Concat
import TableSync.Source
import TableSync.Text.Glob

namespace TableSync.Csv

/-! ## 1. Files -/

/-- A file below the directory: its path from there, when it was modified, and what it holds. -/
structure StoredFile where
  path : String
  modifiedNanos : Int
  content : ByteArray := ByteArray.empty
  isDirectory : Bool := false
deriving Inhabited

namespace StoredFile

/-- The time of modification in milliseconds, by way of the seconds as a double. -/
def modifiedMillis (file : StoredFile) : Int :=
  let seconds := file.modifiedNanos / 1000000000
  let nanos := file.modifiedNanos % 1000000000
  (Number.double ((Float.ofInt seconds + 1e-9 * Float.ofInt nanos) * 1000.0)).truncate

/-- The name of a file in its directory. -/
def name (file : StoredFile) : String := (Text.Glob.parts file.path).getLast?.getD ""

/-- A file as it is listed. -/
def entry (file : StoredFile) : FileEntry := ⟨file.modifiedMillis, file.path, file.content.size⟩

end StoredFile

/-- The order in which files are read: by time, then by name. -/
def readBefore (a b : StoredFile) : Bool :=
  a.modifiedMillis < b.modifiedMillis || (a.modifiedMillis == b.modifiedMillis && a.name ≤ b.name)

/-- The files of a pattern that are newer than a time, oldest first. -/
def eligible (pattern : String) (after : Int) (files : List StoredFile) : List StoredFile :=
  (files.filter fun file =>
    !file.isDirectory && Text.Glob.pathFits pattern file.path && after < file.modifiedMillis).mergeSort readBefore

/-- The time after which files are new; before the first checkpoint all are. -/
def newerThan (checkpoint : Option String) : Except Failure Int :=
  match checkpoint with
  | none | some "" => .ok (-1)
  | some text =>
    match Text.Integer.read? text with
    | some n => .ok n
    | none => .error (.outside .value ("invalid literal for int() with base 10: " ++ Text.quoted text) false)

/-! ## 2. Reading a file -/

/-- The frame of a file; none if the file is blank. -/
def frameOf (content : ByteArray) : Except Failure (Option Frame) :=
  match String.fromUTF8? content with
  | none => .error (.outside .textDecoding "the file is not UTF-8" false)
  | some text =>
    match Grid.ofText text with
    | .blank => .ok none
    | .grid grid => .ok (some grid.toFrame)
    | .malformed => .error (.outside .tableParsing "the file is no table" false)

/-- The name of a column without blanks at its ends, in lower case, blanks inside it underscores. -/
def normalized (name : String) : String :=
  String.ofList ((Text.lower (Text.strip name)).toList.map fun c => if c = ' ' then '_' else c)

/-! ## 3. The source -/

/-- A directory of files, and how to list what is in it if it exists. -/
structure Directory (σ : Type) where
  sourceName : String
  path : String
  pattern : String := "*.csv"
  provider : Option SchemaProvider := none
  listing : Effect σ (Option (List StoredFile))

namespace Directory

variable {σ : Type}

/-- The path of a file. -/
def pathOf (directory : Directory σ) (file : StoredFile) : String := directory.path ++ "/" ++ file.path

/-- Read one file; a blank one is skipped. -/
def readFile (directory : Directory σ) (file : StoredFile) : Effect σ (Option Frame) := do
  match frameOf file.content with
  | .ok (some frame) => return some frame
  | .ok none =>
    Effect.log .warning .csv ("Skipping empty CSV file " ++ directory.pathOf file)
    return none
  | .error cause =>
    if cause.isOf (.outside .tableParsing) then
      Effect.report .sourceRead ("Failed to read CSV file " ++ directory.pathOf file)
        [("source_name", .text directory.sourceName), ("file_path", .text (directory.pathOf file))] (some cause)
    else Effect.fail cause

/-- Read files in order. -/
def readFiles (directory : Directory σ) : List StoredFile → Effect σ (List Frame)
  | [] => return []
  | file :: rest => do
    let frame ← directory.readFile file
    let others ← readFiles directory rest
    return frame.toList ++ others

/-- The files that one round reads, oldest first. -/
def window (directory : Directory σ) (files : List StoredFile) (after budget : Int) : Effect σ (List StoredFile) := do
  let candidates := eligible directory.pattern after files
  let selected ← selectWithinBudget budget (candidates.map StoredFile.entry)
  return candidates.filter fun file => selected.contains file.entry

/-- Read a window of files. -/
def readWindow (directory : Directory σ) (files : List StoredFile) : Effect σ Frame := do
  let bytes := files.foldr (fun file n => file.content.size + n) 0
  Effect.log .info .csv ("Reading " ++ toString files.length ++ " CSV files (" ++ toString bytes ++ " bytes) from " ++
    directory.path)
  let frames ← directory.readFiles files
  return (Frame.concat frames).rename normalized

/-- Fetch what is newer than a checkpoint. -/
def fetch (directory : Directory σ) : Fetch σ Frame := fun checkpoint budget => do
  match ← directory.listing with
  | none =>
    Effect.log .warning .csv ("CSV directory not found: " ++ directory.path)
    return ⟨none, checkpoint, directory.provider⟩
  | some files =>
    match newerThan checkpoint with
    | .error cause =>
      Effect.report .sourceRead "Checkpoint is not a modification time"
        [("source_name", .text directory.sourceName), ("checkpoint", Value.ofText? checkpoint)] (some cause)
    | .ok after =>
      let selected ← directory.window files after budget
      match selected.getLast? with
      | none =>
        Effect.log .info .csv ("No new files in " ++ directory.path)
        return ⟨none, checkpoint, directory.provider⟩
      | some newest =>
        let frame ← directory.readWindow selected
        let reached := toString newest.modifiedMillis
        Effect.log .info .csv ("Read " ++ toString frame.height ++ " rows from CSV, next checkpoint " ++ reached)
        return ⟨some frame, some reached, directory.provider⟩

/-- The directory as a source of rows. -/
def source (directory : Directory σ) : Source σ := .rows directory.fetch

end Directory

end TableSync.Csv
