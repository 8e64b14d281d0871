/-
  TableSync/Proofs/Round/Process.lean
  ===================================
  **Processes** — rounds of a plan, one after another, on a shared store.

  A process sets its plan up and runs rounds, whatever becomes of each.  What it
  was answered so far determines all that it does: run on the script of these
  answers, it says what it asks for next and what it read last.

  The one operation that matters to others is a commit.  `Process.commit_justified`
  says what a process that asks for one has done before: it was shown a
  checkpoint (or there was none), it asked the source from there, and commits
  the checkpoint that came with what it was given.
-/
import TableSync.Proofs.Round.Protocol
import TableSync.Proofs.Store.Script

namespace TableSync

variable {τ ρ : Type}

/-! ## 1. The life of a process -/

/-- Set up, and run a number of rounds. -/
def Plan.life (plan : Plan ρ) (inner : TableStore τ) : Nat → RoundStep (Site τ ρ) Unit
  | 0 => discard (plan.setUp inner).attempt
  | rounds + 1 => do
    plan.life inner rounds
    discard (plan.round inner).run.attempt

/-- A process: its plan, how many rounds it runs at most, and where it begins. -/
structure Process (ρ : Type) where
  plan : Plan ρ
  rounds : Nat
  now : Timestamp
  rest : ρ

namespace Process

/-- The world in which a process begins, with the answers that it is going to get. -/
def start (process : Process ρ) (answers : List Answer) : World (CommitState (Site Script ρ)) :=
  { now := process.now, state := { outside := { inner := { answers }, rest := process.rest } } }

/-- How far a process comes with some answers. -/
def reached (process : Process ρ) (answers : List Answer) : World (CommitState (Site Script ρ)) :=
  ((process.plan.life Script.tableStore process.rounds).runIn (process.start answers)).2

/-- What a process asks for after some answers; nothing if it is done. -/
def asks (process : Process ρ) (answers : List Answer) : Option Warehouse.Operation :=
  (process.reached answers).state.outside.inner.asked

/-- What a process has read last. -/
def lastRead (process : Process ρ) (answers : List Answer) : Option SourceRead :=
  (process.reached answers).state.outside.reads.getLast?

end Process

/-! ## 2. What justifies a commit -/

variable {K : String → Prop} {G : Option String → Delivery → Prop}

/-- The metadata of a commit carries the checkpoint of the last read, which the source gave when asked from a
checkpoint among `K` or from the beginning. -/
def Justifies (K : String → Prop) (G : Option String → Delivery → Prop) (read : Option SourceRead)
    (extra : Fields String) : Prop :=
  ∃ asked delivery checkpoint, read = some ⟨asked, some delivery⟩ ∧ G asked delivery ∧
    delivery.checkpoint = some checkpoint ∧ Fields.get? extra checkpointKey = some checkpoint ∧
    ∀ resumed, asked = some resumed → K resumed

/-- A process may ask for anything but a commit that its last read does not justify. -/
def MayAsk (K : String → Prop) (G : Option String → Delivery → Prop) (reads : List SourceRead) :
    Warehouse.Operation → Prop
  | .commit _ _ _ extra => Justifies K G reads.getLast? extra
  | _ => True

/-- The write client of a process is one that it only hears of. -/
def Remote (s : Scene Script ρ) : Prop :=
  ∀ client, s.client = some client → ∃ id config, client = Site.client (Script.writer id config)

/-- A process whose operations so far were all answered. -/
structure Awake (K : String → Prop) (s : Scene Script ρ) : Prop where
  remote : Remote s
  running : s.inner.Running K

/-- A process that asks for nothing but what it may ask for. -/
structure Steady (K : String → Prop) (G : Option String → Delivery → Prop) (s : Scene Script ρ) : Prop where
  remote : Remote s
  fits : s.inner.Fits K (MayAsk K G s.reads)

theorem Awake.steady {s : Scene Script ρ} (h : Awake K s) : Steady K G s := ⟨h.remote, h.running.fits⟩

theorem answered_stage {α : Type} {A : Scene Script ρ → Prop} {operation : Warehouse.Operation}
    {read : Warehouse.Reply → Option α} (hA : ∀ s, A s → Steady K G s)
    (hmay : ∀ s, A s → MayAsk K G s.reads operation) :
    Stage A (Coordinator.outside (Site.inInner (Script.answered operation read)))
      (fun a s => (∃ reply, read reply = some a ∧ ∀ metadata, reply = .metadata metadata →
        metadata.timeline.EndsIn K) ∧ Awake K s)
      (Steady K G) := by
  refine Stage.ofInner fun s hs => ?_
  have hsteady := hA s hs
  refine (Script.answered_leads K (MayAsk K G s.reads) (hmay s hs)).weaken ?_ ?_ ?_
  · rintro _ rfl
    exact hsteady.fits
  · intro a t ht
    exact ⟨ht.1, hsteady.remote, ht.2⟩
  · intro failure t ht
    exact ⟨hsteady.remote, ht⟩

/-! ## 3. Resuming -/

/-- Without an override, a round resumes from the end of the timeline. -/
theorem Timeline.EndsIn.resume {timeline : Timeline} (h : timeline.EndsIn K) {now : Timestamp} {point : ResumePoint}
    (hpoint : ResumePoint.ofTimeline (some timeline) none now = .ok point) :
    ∀ resumed, point.value = some resumed → K resumed := by
  intro resumed hresumed
  cases hlast : timeline.last? with
  | none =>
    simp only [ResumePoint.ofTimeline, Option.bind_some, hlast, Option.map_none] at hpoint
    cases hpoint
    cases hresumed
  | some last =>
    simp only [ResumePoint.ofTimeline, Option.bind_some, hlast, Option.map_some, ResumePoint.fromCommit?] at hpoint
    split at hpoint
    next hcheckpoint =>
      cases hpoint
      cases hresumed
      exact h last resumed hlast hcheckpoint
    next => cases hpoint

section Round

variable {plan : Plan ρ}

/-- A process resumes from a checkpoint that it was shown, or from the beginning. -/
theorem resume_stage (hoverride : plan.config.checkpoint = none) :
    Stage (Steady K G) (plan.round Script.tableStore).resumePoint
      (fun point s => (∀ resumed, point.value = some resumed → K resumed) ∧ Awake K s) (Steady K G) := by
  have hrefresh : Stage (Steady K G) (plan.round Script.tableStore).refreshTimeline
      (fun timeline s => (∀ history, timeline = some history → history.EndsIn K) ∧ Awake K s) (Steady K G) := by
    have hexists : Stage (Steady K G)
        (Coordinator.outside (Site.inInner (Script.tableStore.metadataExists plan.config.targetBasePath)))
        (fun _ (s : Scene Script ρ) => Awake K s) (Steady K G) := by
      refine (answered_stage (fun _ hs => hs) ?_).weaken (fun _ hs => hs) ?_ fun _ hs => hs
      · exact fun _ _ => trivial
      · exact fun _ _ hs => hs.2
    refine refreshTimeline_stage plan Script.tableStore hexists ?_ ?_
    · refine (answered_stage (fun _ hs => hs.steady) ?_).weaken (fun _ hs => hs) ?_ fun _ hs => hs
      · exact fun _ _ => trivial
      · rintro metadata s ⟨⟨reply, hread, hshown⟩, hs⟩
        refine ⟨?_, hs⟩
        rintro _ ⟨⟩
        cases reply with
        | metadata shown =>
          cases hread
          exact hshown metadata rfl
        | _ => cases hread
    · refine (answered_stage (fun _ hs => hs.steady) ?_).weaken (fun _ hs => hs) ?_ fun _ hs => hs
      · exact fun _ _ => trivial
      · intro _ s hs
        refine ⟨fun history hnone => ?_, hs.2⟩
        cases hnone
  refine (resumePoint_stage plan Script.tableStore hrefresh fun _ _ hs => hs.2.steady).weaken (fun _ hs => hs) ?_
    fun _ hs => hs
  rintro point s ⟨timeline, now, hpoint, hends, hs⟩
  refine ⟨?_, hs⟩
  rw [hoverride] at hpoint
  cases timeline with
  | none =>
    cases hpoint
    intro resumed hresumed
    cases hresumed
  | some history => exact (hends history rfl).resume hpoint

/-! ## 4. Writing -/

/-- A process that has read last from where it resumed. -/
structure HasRead (K : String → Prop) (G : Option String → Delivery → Prop) (point : ResumePoint)
    (given : Option Delivery) (s : Scene Script ρ) : Prop where
  awake : Awake K s
  last : s.reads.getLast? = some ⟨point.value, given⟩
  given : ∀ delivery, given = some delivery → G point.value delivery
  known : ∀ resumed, point.value = some resumed → K resumed

/-- A write through a client that is only heard of: nothing is known of the store, and the commit is
justified. -/
def heardOutline {reads : List SourceRead} (id : Warehouse.ClientId) (config : WriteConfig)
    (operation : WriteOperation) (extra : Fields String) (hjustified : Justifies K G reads.getLast? extra) :
    WriteOutline Script.tableStore (Script.writer id config) operation extra where
  ready := Script.Fits K (MayAsk K G reads)
  started _ := Script.Fits K (MayAsk K G reads)
  staged _ _ := Script.Fits K (MayAsk K G reads)
  unstaged _ := Script.Fits K (MayAsk K G reads)
  committed _ _ := Script.Fits K (MayAsk K G reads)
  ended _ _ := Script.Fits K (MayAsk K G reads)
  failed := Script.Fits K (MayAsk K G reads)
  ready_failed _ ht := ht
  start := Script.answered_keeps K (MayAsk K G reads) trivial
  write _ _ := Script.answered_keeps K (MayAsk K G reads) trivial
  undo _ := Script.answered_keeps K (MayAsk K G reads) trivial
  refuse _ _ _ := Script.answered_keeps K (MayAsk K G reads) trivial
  commit _ _ := by
    refine (Script.answered_keeps K (MayAsk K G reads) (by exact hjustified)).weaken (fun _ ht => ht) ?_
      fun _ _ ht => ht
    intro done t ht
    split
    · exact ht
    · exact ht
  compact _ _ := Script.answered_keeps K (MayAsk K G reads) trivial
  committed_ended _ _ _ ht := ht
  describe _ _ _ := Script.answered_keeps K (MayAsk K G reads) trivial

/-- Before a write: the process has read, and has a client that it only hears of. -/
structure ReadyToCommit (K : String → Prop) (G : Option String → Delivery → Prop) (point : ResumePoint)
    (delivery : Delivery) (s : Scene Script ρ) : Prop where
  client : ∃ id config, s.client = some (Site.client (Script.writer id config))
  last : s.reads.getLast? = some ⟨point.value, some delivery⟩
  fits : s.inner.Fits K (MayAsk K G s.reads)

theorem ReadyToCommit.steady {point : ResumePoint} {delivery : Delivery} {s : Scene Script ρ}
    (h : ReadyToCommit K G point delivery s) : Steady K G s := by
  refine ⟨?_, h.fits⟩
  obtain ⟨id, config, hclient⟩ := h.client
  intro client hsome
  rw [hclient] at hsome
  cases hsome
  exact ⟨id, config, rfl⟩

theorem handed_leads {s : Scene Script ρ} (hfits : s.inner.Fits K (MayAsk K G s.reads)) (config : WriteConfig) :
    Effect.Leads (fun t => t = s.inner) (Script.tableStore.createWriteClient config)
      (fun client t => (∃ id, client = Script.writer id config) ∧ t.Fits K (MayAsk K G s.reads))
      (fun _ t => t.Fits K (MayAsk K G s.reads)) := by
  refine Effect.Leads.weaken ((Script.answered_keeps K (MayAsk K G s.reads) (by trivial)).bind fun id =>
    Effect.leads_pure fun _ ht => ⟨⟨id, rfl⟩, ht⟩) ?_ (fun _ _ ht => ht) fun _ _ ht => ht
  rintro _ rfl
  exact hfits

theorem prepare_stage {point : ResumePoint} {delivery : Delivery} (provider : Option SchemaProvider) :
    Stage (HasRead K G point (some delivery)) ((plan.round Script.tableStore).prepareClient provider)
      (fun _ => ReadyToCommit K G point delivery) (Steady K G) := by
  refine prepareClient_stage plan Script.tableStore provider ?_ ?_ ?_ ?_
  · intro s hs hsome
    obtain ⟨client, hclient⟩ := Option.isSome_iff_exists.mp hsome
    obtain ⟨id, config, rfl⟩ := hs.awake.remote client hclient
    exact ⟨⟨id, config, hclient⟩, hs.last, hs.awake.running.fits⟩
  · intro config now s _ hs _ _
    have hfits : s.inner.Fits K (MayAsk K G s.reads) := hs.awake.running.fits
    refine (handed_leads hfits config).weaken (fun _ ht => ht) ?_ ?_
    · rintro client t ⟨⟨id, rfl⟩, ht⟩
      exact ⟨⟨id, config, rfl⟩, hs.last, ht⟩
    · intro failure t ht
      exact ⟨hs.awake.remote, ht⟩
  · exact fun s hs => hs.awake.steady
  · exact fun s hs => hs.steady

/-- The commit protocol asks for no commit but that of what was read. -/
theorem commit_stage {point : ResumePoint} {delivery : Delivery} {checkpoint : String}
    (hread : delivery.checkpoint = some checkpoint) (hgiven : G point.value delivery)
    (hknown : ∀ resumed, point.value = some resumed → K resumed) (records : List PreparedRecord) :
    Stage (ReadyToCommit K G point delivery)
      ((plan.coordinator Script.tableStore).write records checkpoint point.resetMarker
        (some plan.config.effective.operation.name))
      (fun _ => Steady K G) (Steady K G) := by
  refine Stage.of_each fun base hbase => ?_
  obtain ⟨id, config, hclient⟩ := hbase.client
  have hjustified : Justifies K G base.reads.getLast? (Coordinator.commitMetadata checkpoint point.resetMarker) := by
    refine ⟨point.value, delivery, checkpoint, hbase.last, hgiven, hread, ?_, hknown⟩
    simp [Coordinator.commitMetadata, Fields.get?]
  have hkept : ∀ s, At base (Script.Fits K (MayAsk K G base.reads)) s → Steady K G s := by
    rintro _ ⟨t, rfl, ht⟩
    exact ⟨hbase.steady.remote, ht⟩
  refine (write_stage (heardOutline id config plan.config.effective.operation _ hjustified) hclient records).weaken
    ?_ ?_ hkept
  · intro s hs
    exact ⟨base.inner, hs, hbase.fits⟩
  · rintro commit s ⟨outcome, -, hs⟩
    exact hkept s hs

/-! ## 5. Rounds -/

/-- A round asks for nothing but what it may ask for. -/
theorem run_steady (hoverride : plan.config.checkpoint = none) (hsource : plan.source.Gives G) :
    Stage (Steady K G) (plan.round Script.tableStore).run (fun _ => Steady K G) (Steady K G) := by
  refine run_stage (fun _ hs => hs) (resume_stage hoverride) fun point => ?_
  refine sync_stage (R := HasRead K G point) point hsource ?_ ?_ ?_ ?_
  · rintro s given ⟨hknown, hs⟩ hgiven
    exact ⟨⟨hs.remote, hs.running⟩, List.getLast?_concat, hgiven, hknown⟩
  · exact fun given s hs => hs.awake.steady
  · exact fun delivery s _ hs => hs.awake.steady
  · rintro delivery input ⟨hread, -⟩
    refine Stage.of_each fun s hs => ?_
    have hwrite : Stage (HasRead K G point (some delivery)) ((plan.round Script.tableStore).write point input)
        (fun _ => Steady K G) (Steady K G) :=
      roundWrite_stage point input (prepare_stage input.provider)
        (withoutDuplicates_stage input.records fun _ hready => hready.steady) fun records => commit_stage hread (hs.given delivery rfl) hs.known records
    exact hwrite.weaken (fun _ ht => ht ▸ hs) (fun _ _ ht => ht) fun _ ht => ht

theorem setUp_steady : Stage (Steady K G) (plan.setUp Script.tableStore) (fun _ => Steady K G) (Steady K G) := by
  refine setUp_stage plan Script.tableStore (fun _ hs _ => hs) ?_ fun _ hs => hs
  intro provider config now s _ hs _ _
  refine (handed_leads hs.fits config).weaken (fun _ ht => ht) ?_ ?_
  · rintro client t ⟨⟨id, rfl⟩, ht⟩
    refine ⟨?_, ht⟩
    rintro _ ⟨⟩
    exact ⟨id, config, rfl⟩
  · intro failure t ht
    exact ⟨hs.remote, ht⟩

/-- A process stays steady over any number of rounds. -/
theorem life_steady (hoverride : plan.config.checkpoint = none) (hsource : plan.source.Gives G) (rounds : Nat) :
    Stage (Steady K G) (plan.life Script.tableStore rounds) (fun _ => Steady K G) (Steady K G) := by
  have hattempt : ∀ {α : Type} {step : RoundStep (Site Script ρ) α},
      Stage (Steady K G) step (fun _ => Steady K G) (Steady K G) →
      Stage (Steady K G) (discard step.attempt) (fun _ => Steady K G) (Steady K G) := by
    intro α step h
    apply Effect.Leads.discard
    refine h.attempt.weaken (fun _ hs => hs) ?_ fun _ hs => hs
    rintro (failure | a) s hs
    · exact hs
    · exact hs
  induction rounds with
  | zero => exact hattempt setUp_steady
  | succ rounds ih => exact ih.bind fun _ => hattempt (run_steady hoverride hsource)

end Round

/-- A process that asks for a commit has read what it commits, from where it was told to resume. -/
theorem Process.commit_justified {process : Process ρ} (hoverride : process.plan.config.checkpoint = none)
    (hsource : process.plan.source.Gives G) {answers : List Answer} (hanswers : ∀ answer ∈ answers, answer.Tells K)
    {id : Warehouse.ClientId} {time : Option String} {outcome : WriteOutcome} {extra : Fields String}
    (hasks : process.asks answers = some (.commit id time outcome extra)) :
    Justifies K G (process.lastRead answers) extra := by
  have hstart : Steady K G (process.start answers).state.scene := by
    refine ⟨?_, ?_, hanswers⟩
    · intro client hclient
      cases hclient
    · intro operation hoperation
      cases hoperation
  have hlife : Stage (Steady K G) (process.plan.life Script.tableStore process.rounds) (fun _ => Steady K G)
      (Steady K G) := life_steady hoverride hsource process.rounds
  have hreached : Steady K G (process.reached answers).state.scene := by
    rcases hlife (process.start answers) hstart with ⟨_, w', hrun, hs⟩ | ⟨_, w', hrun, hs⟩
    · rw [reached, hrun]
      exact hs
    · rw [reached, hrun]
      exact hs
  exact hreached.fits.allowed _ hasks

end TableSync
