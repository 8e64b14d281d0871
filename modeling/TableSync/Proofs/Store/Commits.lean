/-
  TableSync/Proofs/Store/Commits.lean
  ===================================
  **The commits of a table** — the timeline that a round resumes from.

  In a lawful store the instants of a table stand in the order of their times,
  so its timeline is a selection of them, and a commit that is added comes last.
  Its metadata is found under its time, because no other instant has that time.
-/
import TableSync.Proofs.Store.Transaction
import TableSync.Timeline.Resume

namespace TableSync

/-- The completed instants of a store, whatever their table and action. -/
def Store.completedInstants (store : Store) : List InstantRow :=
  store.instants.filter fun row => row.state == .completed

/-- An instant is one of the commits that a table of a type shows. -/
def InstantRow.isCommitOf (tableType : TableType) (row : InstantRow) : Bool :=
  row.action == tableType.commitAction && row.state == .completed

/-- The checkpoint that a commit carries. -/
def InstantRow.checkpoint? (row : InstantRow) : Option String := row.metadata.get? checkpointKey

namespace Store

variable {store after : Store} {basePath : String} {tableType : TableType} {row : InstantRow}

/-- The latest commit of a table of a type. -/
def lastCommit? (store : Store) (basePath : String) (tableType : TableType) : Option InstantRow :=
  (store.completedCommits basePath tableType).getLast?

/-- The commits of a table are in order as they stand. -/
theorem Lawful.completedCommits (h : store.Lawful) : store.completedCommits basePath tableType =
    (store.instantsOf basePath).filter (InstantRow.isCommitOf tableType) := by
  refine List.mergeSort_of_pairwise (((h.increasing basePath).filter _).imp fun hlt => ?_)
  exact decide_eq_true (le_of_lt hlt)

theorem Lawful.completedCommits_pairwise (h : store.Lawful) :
    (store.completedCommits basePath tableType).Pairwise fun a b => a.time < b.time := by
  rw [h.completedCommits]
  exact (h.increasing basePath).filter _

theorem Lawful.mem_completedCommits (h : store.Lawful) : row ∈ store.completedCommits basePath tableType ↔
    row ∈ store.instants ∧ row.basePath = basePath ∧ row.action = tableType.commitAction ∧ row.state = .completed := by
  rw [h.completedCommits, List.mem_filter, mem_instantsOf]
  simp [InstantRow.isCommitOf, and_assoc]

/-- The commits of a table are among the completed instants, and nothing else decides them. -/
theorem Lawful.completedCommits_congr (h : store.Lawful) (hafter : after.Lawful)
    (hsame : after.completedInstants = store.completedInstants) :
    after.completedCommits basePath tableType = store.completedCommits basePath tableType := by
  have hselect : ∀ s : Store, (s.instantsOf basePath).filter (InstantRow.isCommitOf tableType) =
      s.completedInstants.filter fun row => row.basePath == basePath && row.action == tableType.commitAction := by
    intro s
    rw [instantsOf, completedInstants, List.filter_filter, List.filter_filter]
    refine List.filter_congr fun row _ => ?_
    rw [InstantRow.isCommitOf]
    cases row.basePath == basePath <;> cases row.action == tableType.commitAction <;>
      cases row.state == .completed <;> rfl
  rw [h.completedCommits, hafter.completedCommits, hselect, hselect, hsame]

/-- A new instant comes last among the commits if it is one. -/
theorem Lawful.completedCommits_withInstant (h : store.Lawful) (hafter : (store.withInstant row).Lawful) :
    (store.withInstant row).completedCommits basePath tableType = store.completedCommits basePath tableType ++
      if row.basePath = basePath ∧ row.isCommitOf tableType = true then [row] else [] := by
  rw [hafter.completedCommits, h.completedCommits, instantsOf_withInstant, List.filter_append]
  congr 1
  by_cases hpath : row.basePath = basePath
  · rw [if_pos hpath, List.filter_cons]
    by_cases hcommit : row.isCommitOf tableType = true
    · rw [if_pos hcommit, if_pos ⟨hpath, hcommit⟩]
      rfl
    · rw [if_neg hcommit, if_neg fun hboth => hcommit hboth.2]
      rfl
  · rw [if_neg hpath, if_neg fun hboth => hpath hboth.1]
    rfl

/-! ## 2. The timeline -/

theorem timelineOf_last? : (store.timelineOf basePath tableType).last? =
    (store.lastCommit? basePath tableType).map InstantRow.toInstant := by
  rw [lastCommit?, ← List.getLast?_map]
  rfl

/-- Looking a row up by its time finds the row, where times do not repeat. -/
theorem get?_details {rows : List InstantRow} (hrows : rows.Pairwise fun a b => a.time < b.time)
    (hrow : row ∈ rows) :
    Fields.get? (rows.map fun row => (row.time, row.metadata)) row.time = some row.metadata := by
  induction rows with
  | nil => cases hrow
  | cons first rest ih =>
    obtain ⟨hfirst, hrest⟩ := List.pairwise_cons.mp hrows
    rw [List.map_cons, Fields.get?]
    rcases List.mem_cons.mp hrow with rfl | hmem
    · exact if_pos rfl
    · rw [if_neg (ne_of_lt (hfirst row hmem))]
      exact ih hrest hmem

theorem timelineOf_metadata (hcommits : (store.completedCommits basePath tableType).Pairwise fun a b => a.time < b.time)
    (hrow : row ∈ store.completedCommits basePath tableType) :
    (store.timelineOf basePath tableType).metadata row.toInstant = row.metadata := by
  have hfound := get?_details hcommits hrow
  show (Fields.get? ((store.completedCommits basePath tableType).map fun row => (row.time, row.metadata))
    row.time).getD {} = row.metadata
  rw [hfound]
  rfl

theorem Lawful.timelineOf_metadata (h : store.Lawful) (hrow : row ∈ store.completedCommits basePath tableType) :
    (store.timelineOf basePath tableType).metadata row.toInstant = row.metadata :=
  Store.timelineOf_metadata h.completedCommits_pairwise hrow

/-- The commits of a timeline decide where a round resumes that has no override. -/
theorem Lawful.resume (h : store.Lawful) (now : Timestamp) {point : ResumePoint}
    (hpoint : ResumePoint.ofTimeline (some (store.timelineOf basePath tableType)) none now = .ok point) :
    point.resetMarker = none ∧
      point.value = (store.lastCommit? basePath tableType).bind InstantRow.checkpoint? := by
  cases hlast : store.lastCommit? basePath tableType with
  | none =>
    have hempty : (store.timelineOf basePath tableType).last? = none := by rw [timelineOf_last?, hlast]; rfl
    simp only [ResumePoint.ofTimeline, Option.bind_some, hempty, Option.map_none] at hpoint
    cases hpoint
    exact ⟨rfl, rfl⟩
  | some row =>
    have hsome : (store.timelineOf basePath tableType).last? = some row.toInstant := by
      rw [timelineOf_last?, hlast]
      rfl
    have hmetadata := h.timelineOf_metadata (List.mem_of_getLast? hlast)
    simp only [ResumePoint.ofTimeline, Option.bind_some, hsome, Option.map_some, hmetadata,
      ResumePoint.fromCommit?] at hpoint
    split at hpoint
    next checkpoint hcheckpoint =>
      cases hpoint
      exact ⟨rfl, hcheckpoint.symm⟩
    next => cases hpoint

/-- A commit that comes last with a checkpoint and the override of its round is where the next round
resumes. -/
theorem Lawful.resume_eq (h : store.Lawful) (now : Timestamp) {checkpoint : String} {override : Option String}
    (hlast : store.lastCommit? basePath tableType = some row)
    (hcheckpoint : row.checkpoint? = some checkpoint)
    (hmarker : ∀ marker, override = some marker → row.metadata.get? resetMarkerKey = some marker) :
    ResumePoint.ofTimeline (some (store.timelineOf basePath tableType)) override now =
      .ok ⟨some checkpoint, override⟩ := by
  have hsome : (store.timelineOf basePath tableType).last? = some row.toInstant := by
    rw [timelineOf_last?, hlast]
    rfl
  have hmetadata := h.timelineOf_metadata (List.mem_of_getLast? hlast)
  have hfrom : ResumePoint.fromCommit? row.metadata override = some checkpoint := by
    cases override with
    | none => exact hcheckpoint
    | some marker => exact (if_pos (hmarker marker rfl)).trans hcheckpoint
  simp only [ResumePoint.ofTimeline, Option.bind_some, hsome, Option.map_some, hmetadata, hfrom]

end Store

end TableSync
