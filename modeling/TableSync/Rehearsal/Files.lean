/-
  TableSync/Rehearsal/Files.lean
  ==============================
  **Files of a rehearsal** — a directory that the script fills.
-/
import TableSync.Rehearsal.Basic
import TableSync.Text.Base64

namespace TableSync.Rehearsal

/-- The number under a name of a description, as a whole number. -/
def wholeUnder (value : Value) (name : String) : Int :=
  match (value.part? name).bind Number.ofValue? with
  | some n => n.truncate
  | none => 0

/-- The text under a name of a description. -/
def textUnder (value : Value) (name : String) : String := ((value.part? name).bind textOf?).getD ""

/-- The file that is described: its content as text or as bytes, its time in milliseconds and
nanoseconds. -/
def fileOf (value : Value) : Csv.StoredFile :=
  { path := textUnder value "name"
    modifiedNanos := wholeUnder value "mtime_ms" * 1000000 + wholeUnder value "mtime_ns"
    content := match value.part? "base64" with
      | some encoded => Text.Base64.decode ((textOf? encoded).getD "")
      | none => (textUnder value "content").toUTF8
    isDirectory := match value.part? "dir" with
      | some directory => !directory.isBlank
      | none => false }

/-- Put a file into the directory, in place of one of the same path; the directory is made if need be. -/
def put (file : Csv.StoredFile) (rehearsal : Rehearsal) : Rehearsal :=
  let others := (rehearsal.directory.getD []).filter fun other => other.path != file.path
  { rehearsal with directory := some (others ++ [file]) }

/-- Take a file out of the directory. -/
def remove (path : String) (rehearsal : Rehearsal) : Rehearsal :=
  { rehearsal with directory := rehearsal.directory.map fun files => files.filter fun file => file.path != path }

/-- What is in the directory. -/
def listing : Effect Rehearsal (Option (List Csv.StoredFile)) := do return (← Effect.state).directory

/-- The directory as a source. -/
def csvDirectory (sourceName path pattern : String) : Csv.Directory Rehearsal :=
  { sourceName, path, pattern, listing }

end TableSync.Rehearsal
