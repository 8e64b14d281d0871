/-
  TableSync/Proofs/Store/Order.lean
  =================================
  **The order of a timeline** — instants stand as they were created.

  An instant is created only after every other instant of its table, whatever
  the clock says and whoever asks.  So the times of a table are those that its
  clients were told, in the order in which they were told, and they increase.
  Each commit is answered with yes at most once, and what its instant shows is
  what it was given then (`Store.Chronicles`).  A timeline is a selection of the
  instants of its table, so it inherits both.
-/
import TableSync.Proofs.Store.History

namespace TableSync

/-- The commit was one of the instant of a table at a time. -/
def CommitEntry.isAt (basePath time : String) (entry : CommitEntry) : Bool :=
  entry.basePath == basePath && entry.time == time

theorem CommitEntry.isAt_iff {basePath time : String} {entry : CommitEntry} :
    entry.isAt basePath time = true ↔ entry.basePath = basePath ∧ entry.time = time := by
  simp [CommitEntry.isAt]

namespace Store

variable {store after : Store} {deeds : List Deed} {deed : Deed} {instant : InstantRow}

/-! ## 1. What the instants tell -/

/-- The instants are those that were created, in this order, and each completed one shows the one commit that was
answered with yes for it. -/
structure Chronicles (store : Store) (deeds : List Deed) : Prop where
  created : ∀ basePath, (store.instantsOf basePath).map (·.time) = Deed.createdIn basePath deeds
  known : ∀ entry ∈ Deed.commits deeds, ∃ row ∈ store.instants, row.isAt entry.basePath entry.time = true
  commits : ∀ row ∈ store.instants,
    ((Deed.commits deeds).filter (CommitEntry.isAt row.basePath row.time)).map CommitEntry.metadata =
      if row.state = .completed then [row.metadata] else []

theorem chronicles_empty : ({} : Store).Chronicles [] where
  created _ := rfl
  known _ hentry := (List.not_mem_nil hentry).elim
  commits _ hrow := (List.not_mem_nil hrow).elim

theorem Chronicles.of_instants (h : store.Chronicles deeds) (hsame : after.instants = store.instants) :
    after.Chronicles deeds where
  created basePath := by
    rw [instantsOf, hsame]
    exact h.created basePath
  known := hsame ▸ h.known
  commits := hsame ▸ h.commits

theorem Chronicles.quiet (h : store.Chronicles deeds) (hsame : after.instants = store.instants)
    (hcreated : ∀ basePath, deed.created? basePath = none) (hcommitted : deed.committed? = none) :
    after.Chronicles (deeds ++ [deed]) := by
  have htimes : ∀ basePath, Deed.createdIn basePath (deeds ++ [deed]) = Deed.createdIn basePath deeds := by
    intro basePath
    rw [Deed.createdIn_snoc, hcreated]
    exact List.append_nil _
  have hcommits : Deed.commits (deeds ++ [deed]) = Deed.commits deeds := by
    rw [Deed.commits_snoc, hcommitted]
    exact List.append_nil _
  obtain ⟨hold, hknown, hshown⟩ := h.of_instants hsame
  rw [← hcommits] at hknown hshown
  exact ⟨fun basePath => (hold basePath).trans (htimes basePath).symm, hknown, hshown⟩

theorem Chronicles.withInstant (h : store.Chronicles deeds) (hbegins : instant.Begins)
    (hnew : store.IsNew instant.basePath instant.time) :
    (store.withInstant instant).Chronicles (deeds ++ [.created instant.basePath instant.time]) := by
  have hcommits : Deed.commits (deeds ++ [.created instant.basePath instant.time]) = Deed.commits deeds := by
    rw [Deed.commits_snoc]
    exact List.append_nil _
  refine ⟨fun basePath => ?_, fun entry hentry => ?_, fun row hrow => ?_⟩
  · rw [instantsOf_withInstant, List.map_append, h.created, Deed.createdIn_snoc, Deed.created?]
    split <;> rfl
  · rw [hcommits] at hentry
    obtain ⟨row, hrow, hat⟩ := h.known entry hentry
    exact ⟨row, List.mem_append_left _ hrow, hat⟩
  · rw [hcommits]
    rcases List.mem_append.mp hrow with hold | hlast
    · exact h.commits row hold
    · rw [List.mem_singleton.mp hlast]
      have hnone : (Deed.commits deeds).filter (CommitEntry.isAt instant.basePath instant.time) = [] := by
        refine List.filter_eq_nil_iff.mpr fun entry hentry hat => ?_
        -- A commit is one of an instant that exists, and the new one comes after all of them.
        obtain ⟨old, hold, hthere⟩ := h.known entry hentry
        obtain ⟨hpath, htime⟩ := CommitEntry.isAt_iff.mp hat
        rw [hpath, htime, hnew.not_isAt hold] at hthere
        cases hthere
      have hstate : instant.state ≠ .completed := by
        rcases hbegins with ⟨-, hstate⟩ | ⟨-, hstate⟩
        all_goals
          rw [hstate]
          decide
      rw [hnone, if_neg hstate]
      rfl

/-- An instant that has not completed may change, and be committed while it does. -/
theorem Chronicles.updateInstant {change : InstantRow → InstantRow} (h : store.Chronicles deeds)
    (hlawful : store.Lawful) (hmem : instant ∈ store.instants) (hstate : instant.state ≠ .completed)
    (hchange : InPlace change) (hdeed : ∀ basePath, deed.created? basePath = none)
    (hnamed : ∀ entry, deed.committed? = some entry → entry.isAt instant.basePath instant.time = true)
    (hshown : deed.committed?.toList.map CommitEntry.metadata =
      if (change instant).state = .completed then [(change instant).metadata] else []) :
    (store.updateInstant instant.basePath instant.time change).Chronicles (deeds ++ [deed]) where
  created basePath := by
    rw [instantsOf_updateInstant hchange, List.map_map, Deed.createdIn_snoc, hdeed, Option.toList_none,
      List.append_nil, ← h.created]
    refine List.map_congr_left fun row _ => ?_
    show InstantRow.time (if _ then _ else _) = _
    split
    · exact (hchange row).2
    · rfl
  known entry hentry := by
    rw [Deed.commits_snoc] at hentry
    refine exists_isAt_updateInstant hchange ?_
    rcases List.mem_append.mp hentry with hold | hnew
    · exact h.known entry hold
    · obtain ⟨hpath, htime⟩ := CommitEntry.isAt_iff.mp (hnamed entry (Option.mem_toList.mp hnew))
      exact ⟨instant, hmem, isAt_iff.mpr ⟨hpath.symm, htime.symm⟩⟩
  commits row hrow := by
    obtain ⟨old, hold, rfl⟩ := List.mem_map.mp hrow
    rw [Deed.commits_snoc, List.filter_append, List.map_append]
    by_cases hat : old.isAt instant.basePath instant.time = true
    · -- The instant itself: no commit before was one of it, and the one that is added is.
      obtain rfl := hlawful.eq_of_isAt hmem hold hat
      have hall : deed.committed?.toList.filter (CommitEntry.isAt old.basePath old.time) = deed.committed?.toList :=
        List.filter_eq_self.mpr fun entry hentry => hnamed entry (Option.mem_toList.mp hentry)
      rw [if_pos hat, (hchange old).1, (hchange old).2, h.commits old hold, if_neg hstate, hall, hshown,
        List.nil_append]
    · -- Any other instant: the commit that is added is not one of it.
      have hnone : deed.committed?.toList.filter (CommitEntry.isAt old.basePath old.time) = [] := by
        refine List.filter_eq_nil_iff.mpr fun entry hentry hother => hat ?_
        obtain ⟨hpath, htime⟩ := CommitEntry.isAt_iff.mp (hnamed entry (Option.mem_toList.mp hentry))
        obtain ⟨hpathOld, htimeOld⟩ := CommitEntry.isAt_iff.mp hother
        exact isAt_iff.mpr ⟨hpathOld.symm.trans hpath, htimeOld.symm.trans htime⟩
      rw [if_neg hat, hnone, h.commits old hold, List.map_nil, List.append_nil]

theorem Change.chronicles (h : store.Change deed after) (hlawful : store.Lawful)
    (hchronicles : store.Chronicles deeds) : after.Chronicles (deeds ++ [deed]) := by
  cases h with
  | unchanged => exact hchronicles.quiet rfl (fun _ => rfl) rfl
  | registered => exact hchronicles.quiet rfl (fun _ => rfl) rfl
  | created hbegins hnew => exact hchronicles.withInstant hbegins hnew
  | staged => exact hchronicles.quiet rfl (fun _ => rfl) rfl
  | @committed instant config outcome extra now records hmem hstate =>
    have hnot : instant.state ≠ .completed := by
      rw [hstate]
      decide
    refine (hchronicles.updateInstant hlawful hmem hnot (inPlace_completed outcome extra now) (fun _ => rfl) ?_
      rfl).of_instants (recordSchema_instants _)
    rintro entry ⟨⟩
    exact CommitEntry.isAt_iff.mpr ⟨rfl, rfl⟩
  | @rolledBack instant now hmem hstate =>
    have hrolled : (store.updateInstant instant.basePath instant.time fun row =>
        { row with state := .rolledBack, completedAt := some now }).Chronicles (deeds ++ [.nothing]) :=
      hchronicles.updateInstant hlawful hmem hstate (inPlace_rolledBack now) (fun _ => rfl) nofun rfl
    exact hrolled.of_instants rfl

/-! ## 2. The timeline -/

/-- The commit that a completed instant shows is the only one that was answered with yes for it. -/
theorem Chronicles.commit_of_completed (h : store.Chronicles deeds) (hmem : instant ∈ store.instants)
    (hstate : instant.state = .completed) : ∃ entry,
    (Deed.commits deeds).filter (CommitEntry.isAt instant.basePath instant.time) = [entry] ∧
      entry.metadata = instant.metadata := by
  have hshown := h.commits instant hmem
  rw [if_pos hstate] at hshown
  exact List.map_eq_singleton_iff.mp hshown

theorem Chronicles.completed_of_commit (h : store.Chronicles deeds) (hmem : instant ∈ store.instants)
    {entry : CommitEntry} (hentry : entry ∈ Deed.commits deeds)
    (hat : entry.isAt instant.basePath instant.time = true) : instant.state = .completed := by
  by_contra hstate
  have hshown := h.commits instant hmem
  rw [if_neg hstate] at hshown
  have hmem : entry ∈ (Deed.commits deeds).filter (CommitEntry.isAt instant.basePath instant.time) :=
    List.mem_filter.mpr ⟨hentry, hat⟩
  rw [List.map_eq_nil_iff.mp hshown] at hmem
  cases hmem

/-- Everything that a timeline shows of a table. -/
theorem Lawful.openMetadata_shows (hlawful : store.Lawful) (h : store.Chronicles deeds) {basePath : String}
    {shell : TableShell} (hshell : store.table? basePath = some shell) (now : Timestamp) :
    ∃ metadata, store.openMetadata basePath now = .ok metadata ∧ metadata.tableType = shell.tableType ∧
      metadata.timeline.instants =
        ((store.instantsOf basePath).filter (InstantRow.isCommitOf shell.tableType)).map InstantRow.toInstant ∧
      metadata.timeline.instants.Pairwise (fun a b => a.time < b.time) ∧
      ∀ instant ∈ metadata.timeline.instants, ∃ entry,
        (Deed.commits deeds).filter (CommitEntry.isAt basePath instant.time) = [entry] ∧
          metadata.timeline.metadata instant = entry.metadata := by
  refine ⟨⟨shell.tableName, shell.tableType, store.timelineOf basePath shell.tableType⟩, ?_, rfl, ?_, ?_, ?_⟩
  · rw [Store.openMetadata, hshell]
  · exact congrArg (List.map InstantRow.toInstant) hlawful.completedCommits
  · exact List.pairwise_map.mpr hlawful.completedCommits_pairwise
  · intro instant hinstant
    obtain ⟨row, hrow, rfl⟩ := List.mem_map.mp hinstant
    obtain ⟨hmem, rfl, -, hstate⟩ := hlawful.mem_completedCommits.mp hrow
    obtain ⟨entry, hentry, hmetadata⟩ := h.commit_of_completed hmem hstate
    exact ⟨entry, hentry, (hlawful.timelineOf_metadata hrow).trans hmetadata.symm⟩

end Store

/-! ## 3. Histories -/

namespace Warehouse

variable {warehouse : Warehouse} {events : List Event}

theorem History.chronicles (h : History events warehouse) :
    warehouse.store.Chronicles (events.map Event.deed) := by
  refine h.induct (P := fun deeds store => store.Chronicles deeds) Store.lawful_empty Store.chronicles_empty ?_
  intro _ _ _ _ hnow hbefore hchange
  exact hchange.chronicles hnow hbefore

/-- The time that a client is given comes after every instant of its table. -/
theorem newInstant_after {w w' : World Warehouse} {client : ClientId} {basePath time : String}
    (hlawful : w.state.store.Lawful) (hclient : w.state.clients[client]?.map (·.config.basePath) = some basePath)
    (hrun : (perform (.startCommit client)).runIn w = (.ok (.instant time), w') ∨
      (perform (.scheduleCompaction client)).runIn w = (.ok (.compaction (some time)), w')) :
    w.state.store.IsNew basePath time := by
  have hpath : ∀ known, w.state.clients[client]? = some known → known.config.basePath = basePath := by
    intro known hknown
    rw [hknown] at hclient
    exact Option.some.inj hclient
  rcases hrun with hrun | hrun
  · obtain ⟨answer, hstart, hanswer⟩ := answer_cases hrun
    rcases startCommit_yields _ _ hstart with ⟨failure, rfl, -⟩ | ⟨told, rfl, known, now, hknown, hdone⟩
    · cases hanswer
    · cases hanswer
      rw [← hpath known hknown]
      exact (Store.newInstant_eq_ok hlawful hdone).1
  · obtain ⟨answer, hschedule, hanswer⟩ := answer_cases hrun
    rcases scheduleCompaction_yields _ _ hschedule with ⟨failure, rfl, -⟩ | ⟨asked, rfl, known, now, hknown, hdone⟩
    · cases hanswer
    · rcases Store.scheduleCompaction_eq_ok hlawful hdone with ⟨rfl, -⟩ | ⟨told, rfl, hnew, -⟩
      · cases hanswer
      · cases hanswer
        rw [← hpath known hknown]
        exact hnew

/-- The timeline of a table after any history, whatever the clocks of its operations. Its instants stand in the order
in which they were created, and their times increase; the next instant comes after all of them; and its timeline
shows exactly the completed instants of its own kind of commit, each with what its one commit was given. -/
theorem History.timeline_ordered (h : History events warehouse) (basePath : String) :
    (warehouse.store.instantsOf basePath).map (·.time) = Deed.createdIn basePath (events.map Event.deed) ∧
    (warehouse.store.instantsOf basePath).Pairwise (fun a b => a.time < b.time) ∧
    (∀ (client : ClientId) (time : String) (w w' : World Warehouse), w.state = warehouse →
      w.state.clients[client]?.map (·.config.basePath) = some basePath →
      ((perform (.startCommit client)).runIn w = (.ok (.instant time), w') ∨
        (perform (.scheduleCompaction client)).runIn w = (.ok (.compaction (some time)), w')) →
      ∀ row ∈ warehouse.store.instantsOf basePath, row.time < time) ∧
    (∀ (shell : TableShell) (w : World Warehouse), w.state = warehouse →
      warehouse.store.table? basePath = some shell → ∃ metadata,
        (perform (.openMetadata basePath)).runIn w = (.ok (.metadata metadata), w) ∧
        metadata.tableType = shell.tableType ∧
        metadata.timeline.instants = ((warehouse.store.instantsOf basePath).filter
          (InstantRow.isCommitOf shell.tableType)).map InstantRow.toInstant ∧
        metadata.timeline.instants.Pairwise (fun a b => a.time < b.time) ∧
        ∀ instant ∈ metadata.timeline.instants, ∃ entry,
          (Deed.commits (events.map Event.deed)).filter (CommitEntry.isAt basePath instant.time) = [entry] ∧
            metadata.timeline.metadata instant = entry.metadata) := by
  have hlawful := History.lawful h
  refine ⟨(History.chronicles h).created basePath, hlawful.increasing basePath, ?_, ?_⟩
  · rintro client time w w' rfl hclient hrun
    exact newInstant_after hlawful hclient hrun
  · rintro shell w rfl hshell
    obtain ⟨metadata, hopen, hshown⟩ := hlawful.openMetadata_shows (History.chronicles h) hshell w.now
    refine ⟨metadata, ?_, hshown⟩
    have hstep : (openMetadata basePath).runIn w = (.ok metadata, w) := by
      show (w.state.store.openMetadata basePath w.now, w) = _
      rw [hopen]
    show (openMetadata basePath >>= fun metadata => pure (.metadata metadata) : Effect Warehouse Reply).runIn w = _
    rw [Effect.runIn_bind_ok hstep]
    rfl

/-- Five instants were created in the sample, in this order, and the timeline of their table can be read. -/
theorem sample_timeline_ordered : ∃ events warehouse shell, History events warehouse ∧
    warehouse.store.table? "/t/events" = some shell ∧
    Deed.createdIn "/t/events" (events.map Event.deed) = ["20250101000010000", "20250101000020000",
      "20250101000030000", "20250101000035000", "20250101000040000"] ∧
    ∃ metadata, (perform (.openMetadata "/t/events")).runIn { now := sampleClock 50, state := warehouse } =
        (.ok (.metadata metadata), { now := sampleClock 50, state := warehouse }) ∧
      metadata.timeline.instants.Pairwise (fun a b => a.time < b.time) := by
  obtain ⟨events, warehouse, hhistory, htable, hinstants, -⟩ := sampleHistory
  obtain ⟨shell, hshell, -⟩ := Option.map_eq_some_iff.mp htable
  obtain ⟨hcreated, -, -, hopen⟩ := History.timeline_ordered hhistory "/t/events"
  obtain ⟨metadata, hrun, -, -, hincreasing, -⟩ := hopen shell ⟨sampleClock 50, [], [], warehouse⟩ rfl hshell
  refine ⟨events, warehouse, shell, hhistory, hshell, ?_, metadata, hrun, hincreasing⟩
  rw [← hcreated]
  simpa [Function.comp_def] using congrArg (List.map Prod.fst) hinstants

end Warehouse

end TableSync
