/-
  TableSync/Proofs/Round/Cluster.lean
  ===================================
  **Clusters** — processes on one store, in any order of their operations.

  A step of a cluster performs the operation that one of its processes asks for
  next, at any time of the clock, or breaks it before it begins.  Nothing says
  which process comes next or that one ever comes again, so rounds overlap as
  they like, commits land out of the order of their instants, and a process may
  stop for ever wherever it stands.

  The invariant is `Cluster.Sound`: a checkpoint that a completed instant carries
  is covered by the batches of rounds that committed, and so is every checkpoint
  that a process was ever shown.  The second half is what makes the first last:
  a process commits what it read from a checkpoint that it was shown, however
  long ago, and what was covered once stays covered.
-/
import TableSync.Proofs.Round.Process
import TableSync.Proofs.Store.Completion
import Mathlib.Logic.Function.Basic

namespace TableSync

variable {ρ ι κ : Type}

/-! ## 1. Clusters -/

/-- The store that processes share, what each of them was answered, and the reads that were committed. -/
structure Cluster (κ : Type) where
  warehouse : Warehouse := {}
  answers : κ → List Answer := fun _ => []
  committed : List SourceRead := []

namespace Cluster

variable [DecidableEq κ]

/-- A process is answered. -/
def answer (cluster : Cluster κ) (k : κ) (answer : Answer) : κ → List Answer :=
  Function.update cluster.answers k (cluster.answers k ++ [answer])

/-- An operation of a process is performed. If it was a commit and the answer is yes, the round has committed
what the process read last. -/
def perform (processes : κ → Process ρ) (cluster : Cluster κ) (k : κ) (operation : Warehouse.Operation)
    (now : Timestamp) : Cluster κ :=
  let (reply, w) := (Warehouse.perform operation).runIn { now, state := cluster.warehouse }
  { warehouse := w.state
    answers := cluster.answer k ⟨now, reply⟩
    committed := match reply.toOption.bind (Warehouse.committed? operation) with
      | some _ => cluster.committed ++ ((processes k).lastRead (cluster.answers k)).toList
      | none => cluster.committed }

/-- One step of a cluster. -/
inductive Step (processes : κ → Process ρ) : Cluster κ → Cluster κ → Prop where
  | performed {cluster : Cluster κ} {k : κ} {operation : Warehouse.Operation} (now : Timestamp) :
      (processes k).asks (cluster.answers k) = some operation →
      Step processes cluster (cluster.perform processes k operation now)
  | broken {cluster : Cluster κ} {k : κ} {operation : Warehouse.Operation} (now : Timestamp) (failure : Failure) :
      (processes k).asks (cluster.answers k) = some operation →
      Step processes cluster { cluster with answers := cluster.answer k ⟨now, .error failure⟩ }

/-- What a cluster can come to from an empty store. -/
inductive Reachable (processes : κ → Process ρ) : Cluster κ → Prop where
  | empty : Reachable processes {}
  | next {cluster after : Cluster κ} : Reachable processes cluster → Step processes cluster after →
      Reachable processes after

end Cluster

/-! ## 2. Coverage -/

/-- Every record at or before a checkpoint is in one of the batches that were read. -/
def SourceLog.Covers (log : SourceLog ι) (reads : List SourceRead) (checkpoint : String) : Prop :=
  ∀ x ∈ log.upTo checkpoint, ∃ read ∈ reads, ∃ delivery, read.given = some delivery ∧ x ∈ log.carried delivery

variable {log : SourceLog ι} {reads later : List SourceRead} {checkpoint : String}

theorem SourceLog.Covers.mono (h : log.Covers reads checkpoint) (hsub : reads ⊆ later) :
    log.Covers later checkpoint := by
  intro x hx
  obtain ⟨read, hread, hgiven⟩ := h x hx
  exact ⟨read, hsub hread, hgiven⟩

/-- A justified commit covers its checkpoint: what is not in its own batch was covered when the process was
shown where to resume. -/
theorem Justifies.covers {read : Option SourceRead} {extra : Fields String}
    (h : Justifies (log.Covers reads) log.Delivers read extra)
    (hcheckpoint : Fields.get? extra checkpointKey = some checkpoint) :
    log.Covers (reads ++ read.toList) checkpoint := by
  obtain ⟨asked, delivery, other, rfl, hdelivers, hdelivery, hother, hknown⟩ := h
  rw [hcheckpoint] at hother
  cases hother
  intro x hx
  by_cases hbefore : x ∈ log.before asked
  · cases asked with
    | none => cases hbefore
    | some resumed =>
      obtain ⟨read, hread, hgiven⟩ := hknown resumed rfl x hbefore
      exact ⟨read, List.mem_append_left _ hread, hgiven⟩
  · refine ⟨⟨asked, some delivery⟩, ?_, delivery, rfl, ?_⟩
    · simp
    · rw [hdelivers checkpoint hdelivery]
      exact ⟨hx, hbefore⟩

/-- The timeline of a table ends with a checkpoint of a completed instant. -/
theorem Store.Lawful.timelineOf_endsIn {store : Store} (h : store.Lawful) {K : String → Prop}
    (hcompleted : ∀ row ∈ store.completedInstants, ∀ checkpoint, row.checkpoint? = some checkpoint → K checkpoint)
    (path : String) (tableType : TableType) : (store.timelineOf path tableType).EndsIn K := by
  intro last checkpoint hlast hcheckpoint
  rw [Store.timelineOf_last?] at hlast
  obtain ⟨row, hrow, rfl⟩ := Option.map_eq_some_iff.mp hlast
  have hmem := List.mem_of_getLast? hrow
  rw [h.timelineOf_metadata hmem] at hcheckpoint
  obtain ⟨hinstant, -, -, hstate⟩ := h.mem_completedCommits.mp hmem
  exact hcompleted row (Store.mem_completedInstants.mpr ⟨hinstant, hstate⟩) checkpoint hcheckpoint

/-! ## 3. The invariant -/

namespace Cluster

/-- Every checkpoint that a completed instant carries, and every one that a process was shown, is covered by
what was committed. -/
structure Sound (log : SourceLog ι) (cluster : Cluster κ) : Prop where
  lawful : cluster.warehouse.store.Lawful
  completed : ∀ row ∈ cluster.warehouse.store.completedInstants, ∀ checkpoint,
    row.checkpoint? = some checkpoint → log.Covers cluster.committed checkpoint
  told : ∀ k, ∀ answer ∈ cluster.answers k, answer.Tells (log.Covers cluster.committed)

variable {cluster after : Cluster κ} {processes : κ → Process ρ}

theorem sound_empty : Sound log ({} : Cluster κ) where
  lawful := Store.lawful_empty
  completed row hrow := by cases hrow
  told k answer hanswer := by cases hanswer

/-- A commit that a process of a sound cluster asks for covers its checkpoint. -/
theorem Sound.committed_covers (h : cluster.Sound log) {process : Process ρ}
    (hoverride : process.plan.config.checkpoint = none) (hsource : process.plan.source.Gives log.Delivers) {k : κ}
    {operation : Warehouse.Operation} (hasks : process.asks (cluster.answers k) = some operation)
    {reply : Warehouse.Reply} {extra : Fields String} (hcommitted : Warehouse.committed? operation reply = some extra)
    (hcheckpoint : Fields.get? extra checkpointKey = some checkpoint) :
    log.Covers (cluster.committed ++ (process.lastRead (cluster.answers k)).toList) checkpoint := by
  unfold Warehouse.committed? at hcommitted
  split at hcommitted
  next id time outcome given =>
    cases hcommitted
    have hjustified : Justifies (log.Covers cluster.committed) log.Delivers
        (process.lastRead (cluster.answers k)) extra :=
      Process.commit_justified hoverride hsource (h.told k) hasks
    exact hjustified.covers hcheckpoint
  next => cases hcommitted

variable [DecidableEq κ]

theorem mem_answer {k other : κ} {new answer : Answer} (h : answer ∈ cluster.answer k new other) :
    answer ∈ cluster.answers other ∨ answer = new := by
  by_cases hsame : other = k
  · subst hsame
    rw [Cluster.answer, Function.update_self] at h
    simpa using h
  · rw [Cluster.answer, Function.update_of_ne hsame] at h
    exact .inl h

/-- A process is told something: the answers stay sound if the new one is, and more is committed at most. -/
theorem Sound.told_more (h : cluster.Sound log) {k : κ} {new : Answer} {committed : List SourceRead}
    (hmore : cluster.committed ⊆ committed) (hnew : new.Tells (log.Covers committed)) :
    ∀ other, ∀ answer ∈ cluster.answer k new other, answer.Tells (log.Covers committed) := by
  intro other answer hanswer
  rcases mem_answer hanswer with hold | rfl
  · intro metadata hreply last checkpoint hlast hcheckpoint
    exact (h.told other answer hold metadata hreply last checkpoint hlast hcheckpoint).mono hmore
  · exact hnew

theorem Sound.failed (h : cluster.Sound log) {k : κ} {now : Timestamp} {failure : Failure} {warehouse : Warehouse}
    (hlawful : warehouse.store.Lawful) (hnothing : cluster.warehouse.store.CompletesNothing warehouse.store) :
    Sound log ⟨warehouse, cluster.answer k ⟨now, .error failure⟩, cluster.committed⟩ where
  lawful := hlawful
  completed row hrow := h.completed row (hnothing row hrow)
  told := by
    apply h.told_more (List.Subset.refl _)
    intro metadata hreply
    cases hreply

section Serving

variable (hoverride : ∀ k, (processes k).plan.config.checkpoint = none)
  (hsource : ∀ k, (processes k).plan.source.Gives log.Delivers)
include hoverride hsource

theorem Sound.perform (h : cluster.Sound log) {k : κ} {operation : Warehouse.Operation} (now : Timestamp)
    (hasks : (processes k).asks (cluster.answers k) = some operation) :
    (cluster.perform processes k operation now).Sound log := by
  have hlawful := Warehouse.perform_leads operation cluster.warehouse h.lawful
  have haccounts := Warehouse.perform_accounts operation cluster.warehouse h.lawful
  unfold Cluster.perform
  rcases hrun : (Warehouse.perform operation).runIn { now, state := cluster.warehouse } with ⟨failure | reply, w⟩
  · exact h.failed (hlawful.of_error rfl hrun).1 (haccounts.of_error rfl hrun)
  · have haccount := haccounts.of_ok rfl hrun
    have hmore : ∀ committed, cluster.committed ⊆ committed →
        (∀ row ∈ w.state.store.completedInstants, ∀ checkpoint, row.checkpoint? = some checkpoint →
          log.Covers committed checkpoint) →
        Sound log ⟨w.state, cluster.answer k ⟨now, .ok reply⟩, committed⟩ := by
      intro committed hsub hcompleted
      refine ⟨(hlawful.of_ok rfl hrun).1, hcompleted, h.told_more hsub ?_⟩
      intro metadata hreply
      obtain ⟨path, tableType, htimeline⟩ := haccount.shown metadata (Except.ok.inj hreply)
      rw [htimeline]
      exact h.lawful.timelineOf_endsIn (fun row hrow c hc => (h.completed row hrow c hc).mono hsub) path tableType
    show Sound log ⟨w.state, cluster.answer k ⟨now, .ok reply⟩,
      match Warehouse.committed? operation reply with
      | some _ => cluster.committed ++ ((processes k).lastRead (cluster.answers k)).toList
      | none => cluster.committed⟩
    split
    next extra hextra =>
      apply hmore _ (List.subset_append_left _ _)
      intro row hrow checkpoint hcheckpoint
      rcases haccount.completed row hrow with hold | ⟨given, hgiven, hrowCheckpoint⟩
      · exact (h.completed row hold checkpoint hcheckpoint).mono (List.subset_append_left _ _)
      · exact h.committed_covers (hoverride k) (hsource k) hasks hgiven (hrowCheckpoint ▸ hcheckpoint)
    next hnone =>
      apply hmore _ (List.Subset.refl _)
      intro row hrow checkpoint hcheckpoint
      rcases haccount.completed row hrow with hold | ⟨given, hgiven, -⟩
      · exact h.completed row hold checkpoint hcheckpoint
      · rw [hnone] at hgiven
        cases hgiven

theorem Sound.step (h : cluster.Sound log) (hstep : Step processes cluster after) : after.Sound log := by
  cases hstep with
  | performed now hasks => exact h.perform hoverride hsource now hasks
  | broken now failure hasks => exact h.failed h.lawful (.of_instants rfl)

/-- Every cluster that can be reached is sound. -/
theorem Reachable.sound (h : Reachable processes cluster) : cluster.Sound log := by
  induction h with
  | empty => exact sound_empty
  | next _ hstep ih => exact ih.step hoverride hsource hstep

/-- No record is skipped, whatever the order of the operations: every record at or before the checkpoint of a
completed instant was in the batch of a round that committed. -/
theorem Reachable.no_record_skipped (h : Reachable processes cluster) :
    ∀ row ∈ cluster.warehouse.store.completedInstants, ∀ checkpoint, row.checkpoint? = some checkpoint →
      ∀ x ∈ log.upTo checkpoint, ∃ read ∈ cluster.committed, ∃ delivery,
        read.given = some delivery ∧ x ∈ log.carried delivery :=
  (h.sound hoverride hsource).completed

end Serving

/-! ## 4. Two processes -/

/-- The operation that a process asks for is performed, if it asks for one. -/
def advance (processes : κ → Process ρ) (cluster : Cluster κ) (turn : κ × Timestamp) : Cluster κ :=
  match (processes turn.1).asks (cluster.answers turn.1) with
  | some operation => cluster.perform processes turn.1 operation turn.2
  | none => cluster

theorem Reachable.advance (h : Reachable processes cluster) (turns : List (κ × Timestamp)) :
    Reachable processes (turns.foldl (Cluster.advance processes) cluster) := by
  induction turns generalizing cluster with
  | nil => exact h
  | cons turn rest ih =>
    rw [List.foldl_cons]
    apply ih
    unfold Cluster.advance
    split
    next operation hasks => exact h.next (.performed turn.2 hasks)
    next => exact h

/-- Two processes with the sample plan, at the beginning of 2025. -/
def sampleProcesses : Bool → Process Unit := fun _ => ⟨samplePlan, 1, ⟨63871286400000000⟩, ()⟩

/-- Their log: one record, which is up to the checkpoint `1`. -/
def sampleLogOfOne : SourceLog Unit where
  upTo checkpoint := { _x | checkpoint = "1" }
  carried
    | .rows batch => { _x | batch.data.isSome }
    | .records batch => { _x | batch.data.isSome }

/-- They take turns, a second apart. -/
def sampleTurns : List (Bool × Timestamp) :=
  (List.range 12).map fun n => (n % 2 == 0, ⟨63871286400000000 + 1000000 * n⟩)

theorem samplePlan_delivers : samplePlan.source.Gives sampleLogOfOne.Delivers := by
  intro asked limit w _
  by_cases hasked : asked = some "1"
  · refine .inl ⟨⟨none, asked, none⟩, w, ?_, ?_⟩
    · show (if asked = some "1" then _ else _ : Effect Unit (Batch (List Record))).runIn w = _
      rw [if_pos hasked]
      rfl
    · intro checkpoint hcheckpoint
      subst hasked
      cases hcheckpoint
      ext x
      simp [sampleLogOfOne, SourceLog.before]
  · refine .inl ⟨⟨some [[("id", .text "a"), ("ts", .int 1)]], some "1", none⟩, w, ?_, ?_⟩
    · show (if asked = some "1" then _ else _ : Effect Unit (Batch (List Record))).runIn w = _
      rw [if_neg hasked]
      rfl
    · intro checkpoint hcheckpoint
      cases hcheckpoint
      ext x
      cases asked with
      | none => simp [sampleLogOfOne, SourceLog.before]
      | some resumed =>
        have hother : resumed ≠ "1" := fun hsame => hasked (congrArg some hsame)
        simp [sampleLogOfOne, SourceLog.before, hother]

/-- Both commit up to the checkpoint `1`, the second while the first is still writing, and the record is in a
batch that was committed. -/
theorem sampleProcesses_no_record_skipped : ∃ cluster, Reachable sampleProcesses cluster ∧
    cluster.warehouse.store.completedInstants.map InstantRow.checkpoint? = [some "1", some "1"] ∧
    ∃ read ∈ cluster.committed, ∃ delivery, read.given = some delivery ∧ () ∈ sampleLogOfOne.carried delivery := by
  obtain ⟨cluster, hreachable, hcompleted⟩ : ∃ cluster, Reachable sampleProcesses cluster ∧
      cluster.warehouse.store.completedInstants.map InstantRow.checkpoint? = [some "1", some "1"] :=
    ⟨_, Reachable.empty.advance sampleTurns, by decide +kernel⟩
  refine ⟨cluster, hreachable, hcompleted, ?_⟩
  obtain ⟨row, hrow, hcheckpoint⟩ : ∃ row ∈ cluster.warehouse.store.completedInstants, row.checkpoint? = some "1" := by
    have hmem : some "1" ∈ cluster.warehouse.store.completedInstants.map InstantRow.checkpoint? := by
      rw [hcompleted]
      exact List.mem_cons_self
    exact List.mem_map.mp hmem
  exact Reachable.no_record_skipped (fun _ => rfl) (fun _ => samplePlan_delivers) hreachable row hrow "1" hcheckpoint ()
    rfl

end Cluster

end TableSync
