/-
  TableSync/Timeline/Resume.lean
  ==============================
  **Where a round resumes** — from an override, from the last commit, or from
  the source's own start.

  Each commit of a sync carries the checkpoint that the next round reads from
  and, if a user gave one, the override that was in force.  An override is
  taken as long as the last commit does not carry it, hence once.  A table with
  history that carries neither was not built by a sync and is refused.
-/
import TableSync.Timeline
import TableSync.World

namespace TableSync

/-- Where a round resumes; without a value the source starts as it likes. The marker is the override in
force, recorded on the commits of the round. -/
structure ResumePoint where
  value : Option String := none
  resetMarker : Option String := none
deriving DecidableEq, Repr, Inhabited

/-- The name under which a commit carries its checkpoint. -/
def checkpointKey : String := "deltastreamer.checkpoint.key"

/-- The name under which a commit carries the override that was in force. -/
def resetMarkerKey : String := "deltastreamer.checkpoint.reset_key"

namespace ResumePoint

/-- The checkpoint to take from the metadata of the last commit: an override that it does not carry, else
the checkpoint that it does. -/
def fromCommit? (metadata : CommitMetadata) (override : Option String) : Option String :=
  match override with
  | some checkpoint =>
    if metadata.get? resetMarkerKey = some checkpoint then metadata.get? checkpointKey
    else some checkpoint
  | none => metadata.get? checkpointKey

/-- A table with history in which nothing says where to resume. -/
def missing (timeline : Timeline) (last : Instant) (now : Timestamp) : Failure :=
  .report .missingCheckpoint
    ("Unable to find previous checkpoint. Please double check if this table " ++
      "was indeed built via delta sync")
    [("last_instant", .text last.text),
     ("instants", .list (timeline.instants.map fun instant => .text instant.text)),
     ("commit_metadata", .text (timeline.metadata last).json)] now none

/-- Where to resume on a timeline, if the table has one. -/
def ofTimeline (timeline : Option Timeline) (override : Option String) (now : Timestamp) :
    Except Failure ResumePoint :=
  match timeline.bind fun history => history.last?.map fun last => (history, last) with
  | none => .ok ⟨override, override⟩
  | some (history, last) =>
    match fromCommit? (history.metadata last) override with
    | some checkpoint => .ok ⟨some checkpoint, override⟩
    | none => .error (missing history last now)

/-- Decide where to resume, and say so in the log. -/
def resolve {σ : Type} (timeline : Option Timeline) (override : Option String) : Effect σ ResumePoint := do
  let point ← Effect.ofExcept (ofTimeline timeline override (← Effect.now))
  Effect.log .info .resume ("Checkpoint to resume from : " ++ Value.optionText point.value)
  return point

end ResumePoint

end TableSync
