/-
  TableSync/Csv/Window.lean
  =========================
  **Which files one round reads** — the oldest that fit a byte budget.

  A later round reads only files modified after its checkpoint, so files of one
  modification time are taken or left together.  If the oldest such group alone
  exceeds the budget it is read all the same, since otherwise no round would
  ever get past it.
-/
import TableSync.World

namespace TableSync.Csv

/-- A file as its directory lists it: modification time in milliseconds, name and size. -/
structure FileEntry where
  modified : Int
  name : String
  size : Int
deriving DecidableEq, Repr, Inhabited

/-- The longest run of files from the front that fits what is left of the budget. -/
def fitting (budget : Int) : Int → List FileEntry → List FileEntry
  | _, [] => []
  | taken, entry :: rest =>
    if taken + entry.size > budget then []
    else entry :: fitting budget (taken + entry.size) rest

/-- The first file, whatever its size, and what still fits after it. -/
def greedy (budget : Int) : List FileEntry → List FileEntry
  | [] => []
  | entry :: rest => entry :: fitting budget entry.size rest

/-- The files that a round reads, and whether the oldest group exceeds the budget. The files are given
oldest first. -/
def select (budget : Int) (files : List FileEntry) : List FileEntry × Bool :=
  let selected := greedy budget files
  match selected.getLast?, files.drop selected.length with
  | some last, next :: _ =>
    if next.modified ≠ last.modified then (selected, false)
    else
      let older := selected.filter fun entry => entry.modified < last.modified
      if older.isEmpty then (files.filter fun entry => entry.modified == last.modified, true)
      else (older, false)
  | _, _ => (selected, false)

/-- The files that a round reads; a group over the budget is told in the log. -/
def selectWithinBudget {σ : Type} (budget : Int) (files : List FileEntry) : Effect σ (List FileEntry) := do
  let (selected, overBudget) := select budget files
  match overBudget, selected with
  | true, first :: _ =>
    Effect.log .warning .csv ("Files modified at " ++ toString first.modified ++
      " exceed the byte budget of " ++ toString budget ++ ", reading them together")
  | _, _ => pure ()
  return selected

end TableSync.Csv
