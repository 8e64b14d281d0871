/-
  TableSync/Proofs/Store/Latest.lean
  ==================================
  **The latest commit** — the one instant of a table that decides where to resume.

  Nothing is asked of a store but what its index on instants enforces: two
  instants of a table have different times.  Whatever order its instants were
  written in, by whomever and with whatever metadata, the timeline of a table
  ends with the commit of the greatest time, and finds the metadata of that one
  (`TimesApart.ofTimeline_latest`).
-/
import Mathlib
import TableSync.Proofs.Distinct
import TableSync.Proofs.Store.Commits

namespace TableSync

theorem ResumePoint.fromCommit?_eq_none {metadata : CommitMetadata} {override : Option String} :
    fromCommit? metadata override = none ↔ metadata.get? checkpointKey = none ∧
      ∀ checkpoint, override = some checkpoint → metadata.get? resetMarkerKey = some checkpoint := by
  cases override with
  | none => simp [fromCommit?]
  | some checkpoint =>
    by_cases hmarker : metadata.get? resetMarkerKey = some checkpoint
    · simp [fromCommit?, hmarker]
    · simp [fromCommit?, hmarker]

namespace Store

variable {store : Store} {basePath : String} {tableType : TableType} {row : InstantRow}

/-! ## 1. The commit of the greatest time -/

/-- Two instants of a table have different times. -/
def TimesApart (store : Store) (basePath : String) : Prop :=
  (store.instantsOf basePath).Pairwise fun a b => a.time ≠ b.time

/-- A completed commit of a table, none of which has a greater time. -/
structure LatestCommit (store : Store) (basePath : String) (tableType : TableType) (row : InstantRow) : Prop where
  mem : row ∈ store.instantsOf basePath
  commit : row.isCommitOf tableType = true
  greatest : ∀ other ∈ store.instantsOf basePath, other.isCommitOf tableType = true → other.time ≤ row.time

theorem exists_latestCommit (h : ∃ row ∈ store.instantsOf basePath, row.isCommitOf tableType = true) :
    ∃ row, store.LatestCommit basePath tableType row := by
  obtain ⟨some, hsome, hcommit⟩ := h
  have hnonempty : ((store.instantsOf basePath).filter (InstantRow.isCommitOf tableType)).toFinset.Nonempty :=
    ⟨some, List.mem_toFinset.2 (List.mem_filter.2 ⟨hsome, hcommit⟩)⟩
  obtain ⟨row, hrow, hgreatest⟩ := Finset.exists_max_image _ InstantRow.time hnonempty
  obtain ⟨hmem, hrowCommit⟩ := List.mem_filter.1 (List.mem_toFinset.1 hrow)
  refine ⟨row, hmem, hrowCommit, fun other hother hotherCommit => ?_⟩
  exact hgreatest other (List.mem_toFinset.2 (List.mem_filter.2 ⟨hother, hotherCommit⟩))

theorem completedCommits_perm : (store.completedCommits basePath tableType).Perm
    ((store.instantsOf basePath).filter (InstantRow.isCommitOf tableType)) :=
  List.mergeSort_perm _ _

theorem TimesApart.increasing (h : store.TimesApart basePath) :
    (store.completedCommits basePath tableType).Pairwise fun a b => a.time < b.time := by
  have hsorted : (store.completedCommits basePath tableType).Pairwise fun a b => a.time ≤ b.time :=
    pairwise_le_mergeSort InstantRow.time _
  have hapart : (store.completedCommits basePath tableType).Pairwise fun a b => a.time ≠ b.time :=
    completedCommits_perm.symm.pairwise (List.Pairwise.filter _ h) fun hne => hne.symm
  exact (hsorted.and hapart).imp fun ⟨hle, hne⟩ => lt_of_le_of_ne hle hne

/-! ## 2. What the timeline makes of it -/

theorem LatestCommit.lastCommit? (h : store.LatestCommit basePath tableType row) (hapart : store.TimesApart basePath) :
    store.lastCommit? basePath tableType = some row := by
  have hmem : row ∈ store.completedCommits basePath tableType :=
    completedCommits_perm.mem_iff.2 (List.mem_filter.2 ⟨h.mem, h.commit⟩)
  have hincreasing : (store.completedCommits basePath tableType).Pairwise fun a b => a.time < b.time :=
    hapart.increasing
  have hgreatest : ∀ other ∈ store.completedCommits basePath tableType, other.time ≤ row.time := by
    intro other hother
    obtain ⟨hthere, hcommit⟩ := List.mem_filter.1 (completedCommits_perm.mem_iff.1 hother)
    exact h.greatest other hthere hcommit
  rw [Store.lastCommit?]
  rcases List.eq_nil_or_concat' (store.completedCommits basePath tableType) with hnone | ⟨front, last, hcommits⟩
  · rw [hnone] at hmem
    cases hmem
  · rw [hcommits] at hmem hincreasing hgreatest ⊢
    rcases List.mem_append.1 hmem with hfront | hlast
    · have hearlier := (List.pairwise_append.1 hincreasing).2.2 row hfront last (List.mem_singleton_self last)
      exact absurd (hgreatest last (by simp)) (not_le.2 hearlier)
    · rw [List.mem_singleton.1 hlast, List.getLast?_concat]

/-- **The latest commit decides where to resume**, and nothing else in the store does. -/
theorem TimesApart.ofTimeline_latest (h : store.TimesApart basePath)
    (hrow : store.LatestCommit basePath tableType row) (override : Option String) (now : Timestamp) :
    (∃ checkpoint, ResumePoint.fromCommit? row.metadata override = some checkpoint ∧
      ResumePoint.ofTimeline (some (store.timelineOf basePath tableType)) override now =
        .ok ⟨some checkpoint, override⟩) ∨
      ResumePoint.fromCommit? row.metadata override = none ∧
        ResumePoint.ofTimeline (some (store.timelineOf basePath tableType)) override now =
          .error (ResumePoint.missing (store.timelineOf basePath tableType) row.toInstant now) := by
  have hlast := hrow.lastCommit? h
  have hsome : (store.timelineOf basePath tableType).last? = some row.toInstant := by
    rw [timelineOf_last?, hlast]
    rfl
  have hmetadata := timelineOf_metadata h.increasing (List.mem_of_getLast? hlast)
  simp only [ResumePoint.ofTimeline, Option.bind_some, hsome, Option.map_some, hmetadata]
  cases ResumePoint.fromCommit? row.metadata override with
  | some checkpoint => exact .inl ⟨checkpoint, rfl, rfl⟩
  | none => exact .inr ⟨rfl, rfl⟩

/-! ## 3. Other metadata -/

/-- The store with other metadata at all instants but one. -/
def reworded (store : Store) (row : InstantRow) (change : InstantRow → Option (Fields String)) : Store :=
  { store with instants := store.instants.map fun other =>
      if other.isAt row.basePath row.time then other else { other with extra := change other } }

variable {change : InstantRow → Option (Fields String)}

/-- What is left of an instant when its metadata changes. -/
theorem instantsOf_reworded : (store.reworded row change).instantsOf basePath =
    (store.instantsOf basePath).map fun other =>
      if other.isAt row.basePath row.time then other else { other with extra := change other } := by
  rw [instantsOf, instantsOf, reworded, List.filter_map]
  congr 1
  refine List.filter_congr fun other _ => ?_
  dsimp only [Function.comp]
  split <;> rfl

theorem TimesApart.reworded (h : store.TimesApart basePath) : (store.reworded row change).TimesApart basePath := by
  rw [TimesApart, instantsOf_reworded, List.pairwise_map]
  refine h.imp fun hne => ?_
  split <;> split <;> exact hne

theorem LatestCommit.reworded (h : store.LatestCommit basePath tableType row) :
    (store.reworded row change).LatestCommit basePath tableType row := by
  constructor
  · rw [instantsOf_reworded]
    exact List.mem_map.2 ⟨row, h.mem, if_pos (by simp [InstantRow.isAt])⟩
  · exact h.commit
  · intro other hother hcommit
    rw [instantsOf_reworded] at hother
    obtain ⟨before, hbefore, rfl⟩ := List.mem_map.1 hother
    by_cases hsame : before.isAt row.basePath row.time = true
    · rw [if_pos hsame] at hcommit ⊢
      exact h.greatest before hbefore hcommit
    · rw [if_neg hsame] at hcommit ⊢
      exact h.greatest before hbefore hcommit

end Store

end TableSync
