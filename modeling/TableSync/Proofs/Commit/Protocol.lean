/-
  TableSync/Proofs/Commit/Protocol.lean
  =====================================
  **The commit protocol against any client** — one write, call by call.

  `Exchange` lists the ways in which a write can go: no commit was started; the
  batch was not accepted and is rolled back, or cannot be; it was accepted and
  is committed, or not.  Each way names the calls in their order, the outcome
  and the phase.  `write_leads` says that there is no other way, whatever the
  client answers and however it fails, and `write_protocol` reads off it what
  callers rely on: commit and rollback together are called once at most, each
  for its own reason, and a rollback that failed is never passed over.
-/
import TableSync.Proofs.Commit.Watch
import TableSync.Proofs.Round.Protocol

namespace TableSync

variable {ρ : Type}

/-! ## 1. The ways of a write -/

/-- The call commits. -/
def Call.isCommit : Call ρ → Bool
  | .commit .. => true
  | _ => false

/-- The call rolls back. -/
def Call.isRollback : Call ρ → Bool
  | .rollback .. => true
  | _ => false

/-- The call decides the fate of an instant. -/
def Call.decides (call : Call ρ) : Bool := call.isCommit || call.isRollback

/-- Attempts to start a commit that failed. -/
def Refused (starts : List (Call ρ)) : Prop := ∀ call ∈ starts, ∃ failure, call = .startCommit (.error failure)

theorem refused_nil : Refused ([] : List (Call ρ)) := by
  intro call hcall
  cases hcall

theorem Refused.snoc {starts : List (Call ρ)} (h : Refused starts) (failure : Failure) :
    Refused (starts ++ [.startCommit (.error failure)]) := by
  intro call hcall
  rcases List.mem_append.mp hcall with hearlier | hlast
  · exact h call hearlier
  · exact ⟨failure, List.mem_singleton.mp hlast⟩

/-- Requests for a compaction. -/
def Compactions (calls : List (Call ρ)) : Prop := ∀ call ∈ calls, ∃ answer, call = .scheduleCompaction answer

theorem compactions_nil : Compactions ([] : List (Call ρ)) := by
  intro call hcall
  cases hcall

/-- A staged batch is to be committed. -/
def Accepts (config : SyncConfig) (outcome : WriteOutcome) : Prop :=
  outcome.hasErrors = false ∨ config.commitOnErrors = true

/-- The failure of a write whose records were refused. -/
def exceeded (time : String) (outcome : WriteOutcome) (now : Timestamp) : Failure :=
  .report .writeErrorsExceeded ("Commit " ++ time ++ " failed and rolled-back !")
    [("instant_time", .text time), ("total_records", .int outcome.totalRecords),
     ("total_error_records", .int outcome.totalErrorRecords)] now none

/-- The answer to a write is a reason to roll back: it failed, or records were refused and that counts. -/
inductive Objects (config : SyncConfig) (time : String) : Except Failure WriteOutcome → Failure → Prop where
  | raised (reason : Failure) : Objects config time (.error reason) reason
  | counted {outcome : WriteOutcome} (hrefused : outcome.hasErrors = true) (hcounts : config.commitOnErrors = false)
      (now : Timestamp) : Objects config time (.ok outcome) (exceeded time outcome now)

/-- A rollback that did not happen, as it is told to the caller. -/
def Unable (time : String) (reason : Failure) (answer : Except Failure Bool) (failure : Failure) : Prop :=
  ∃ message now cause, failure = .report .rollback message (Coordinator.rollbackFacts time reason) now cause ∧
    ∀ raised, answer = .error raised → cause = some raised

/-- The calls of a write up to the answer of the client. -/
def callsToWrite (starts : List (Call ρ)) (time : String) (operation : WriteOperation)
    (records : List PreparedRecord) (written : Except Failure WriteOutcome) : List (Call ρ) :=
  starts ++ [.startCommit (.ok time), .write operation records time written]

/-- The call that decides on a written batch, with the outcome of the write and the phase at its end. -/
inductive Verdict (config : SyncConfig) (extra : Fields String) (time : String) :
    Except Failure WriteOutcome → Call ρ → Except Failure CommitResult → CommitPhase → Prop where
  | undone {written : Except Failure WriteOutcome} {reason : Failure} (hreason : Objects config time written reason) :
      Verdict config extra time written (.rollback time (.ok true)) (.error reason) .rolledBack
  | stuck {written : Except Failure WriteOutcome} {reason failure : Failure} (hreason : Objects config time written reason)
      {answer : Except Failure Bool} (hanswer : answer ≠ .ok true) (hfailure : Unable time reason answer failure) :
      Verdict config extra time written (.rollback time answer) (.error failure) .commitStarted
  | committed {outcome : WriteOutcome} (haccepts : Accepts config outcome) {result : CommitResult}
      (hresult : result.instantTime = time) :
      Verdict config extra time (.ok outcome) (.commit time outcome extra (.ok true)) (.ok result) .committed
  | uncommitted {outcome : WriteOutcome} (haccepts : Accepts config outcome) {answer : Except Failure Bool}
      (hanswer : answer ≠ .ok true) (failure : Failure) :
      Verdict config extra time (.ok outcome) (.commit time outcome extra answer) (.error failure) .commitStarted

/-- The ways of a write: its outcome, the phase at the end, and its calls. A compaction is asked for after a commit
only. -/
inductive Exchange (config : SyncConfig) (operation : WriteOperation) (records : List PreparedRecord)
    (extra : Fields String) : Except Failure CommitResult → CommitPhase → List (Call ρ) → Prop where
  | unstarted {starts : List (Call ρ)} (hstarts : Refused starts) (failure : Failure) :
      Exchange config operation records extra (.error failure) .idle starts
  | decided {starts after : List (Call ρ)} (hstarts : Refused starts) (time : String)
      {written : Except Failure WriteOutcome} {decision : Call ρ} {outcome : Except Failure CommitResult}
      {phase : CommitPhase} (hverdict : Verdict config extra time written decision outcome phase)
      (hafter : Compactions after) (honly : phase ≠ .committed → after = []) :
      Exchange config operation records extra outcome phase
        (callsToWrite starts time operation records written ++ decision :: after)

namespace Coordinator

/-! ## 2. The parts of a write -/

section Parts

variable {base : CommitState (Watched ρ)} {client : WriteClient ρ} {calls : List (Call ρ)} {phase : CommitPhase}
variable (coordinator : Coordinator ρ) (hclient : base.client = some client.watched)
variable {E : Failure → CommitState (Watched ρ) → Prop}

open Watched (Recorded)

/-- The name of an operation stands for it, and without one the configuration decides. -/
theorem operationName_map {σ : Type} (coordinator : Coordinator σ) (operation : Option WriteOperation) :
    coordinator.operationName (operation.map WriteOperation.name) =
      (operation.getD coordinator.config.effective.operation).name := by
  rcases operation with _ | operation
  · rfl
  · cases operation <;> rfl

include hclient in
/-- Every attempt to start a commit is on record; the last one alone can succeed. -/
theorem startCommit_leads :
    Effect.Leads (Stands base .idle (Recorded calls)) coordinator.watched.startCommit
      (fun time state => ∃ starts, Refused starts ∧
        Stands base .idle (Recorded (calls ++ starts ++ [.startCommit (.ok time)])) state)
      (fun _ state => ∃ starts, Refused starts ∧ Stands base .idle (Recorded (calls ++ starts)) state) := by
  refine withClient_leads hclient ?_
  -- What every attempt finds, and leaves behind when it fails.
  let tried : CommitState (Watched ρ) → Prop :=
    fun state => ∃ starts, Refused starts ∧ Stands base .idle (Recorded (calls ++ starts)) state
  refine (RetryPolicy.leads_run (P := tried) (E := fun _ => tried) _ _ (Effect.leads_of_exists fun starts =>
    Effect.leads_of_fact fun hstarts => ?_) fun _ _ hs => hs).weaken (fun _ hs => ⟨[], refused_nil, ?_⟩)
    (fun _ _ hs => hs) fun _ _ hs => hs
  · refine (outside_leads (Watched.called_leads client.startCommit .startCommit)).weaken (fun _ hs => hs)
      (fun time _ hs => ⟨starts, hstarts, hs⟩) fun failure _ hs => ?_
    exact ⟨_, hstarts.snoc failure, by rwa [← List.append_assoc]⟩
  · rwa [List.append_nil]

theorem dispatch_leads (operation : WriteOperation) (records : List PreparedRecord) (time : String) :
    Effect.Leads (Stands base phase (Recorded calls)) (dispatch client.watched operation.name records time)
      (fun outcome => Stands base phase (Recorded (calls ++ [.write operation records time (.ok outcome)])))
      (fun failure => Stands base phase (Recorded (calls ++ [.write operation records time (.error failure)]))) := by
  unfold dispatch
  rw [named_name]
  exact outside_leads (Watched.called_leads _ _)

include hclient in
/-- A rollback that the client confirms is one; any other is told to the caller with its reason. -/
theorem rollBack_leads (time : String) (reason : Failure) :
    Effect.Leads (Stands base phase (Recorded calls)) (coordinator.watched.rollBack time reason)
      (fun _ => Stands base .rolledBack (Recorded (calls ++ [.rollback time (.ok true)])))
      (fun failure state => ∃ answer, answer ≠ .ok true ∧ Unable time reason answer failure ∧
        Stands base phase (Recorded (calls ++ [.rollback time answer])) state) := by
  refine withClient_leads hclient ?_
  refine (outside_leads (Watched.called_leads (client.rollback time) (.rollback time))).attempt.bind ?_
  rintro (cause | done)
  · intro w hw
    exact .inr ⟨_, w, rfl, .error cause, nofun, ⟨_, w.now, some cause, rfl, fun _ h => by cases h; rfl⟩, hw⟩
  · cases done with
    | false =>
      intro w hw
      exact .inr ⟨_, w, rfl, .ok false, nofun, ⟨_, w.now, none, rfl, nofun⟩, hw⟩
    | true => exact (enter_leads .rolledBack).bind fun _ => Effect.leads_log _ _ _

include hclient in
theorem requestCompaction_leads :
    Effect.Leads (Stands base phase (Recorded calls)) coordinator.watched.requestCompaction
      (fun _ state => ∃ after, Compactions after ∧ Stands base phase (Recorded (calls ++ after)) state) E := by
  have hrequest : Effect.Leads (Stands base phase (Recorded calls))
      (do let client ← coordinator.watched.requireClient; outside client.scheduleCompaction :
        Effect (CommitState (Watched ρ)) (Option String))
      (fun _ state => ∃ after, Compactions after ∧ Stands base phase (Recorded (calls ++ after)) state)
      (fun _ state => ∃ after, Compactions after ∧ Stands base phase (Recorded (calls ++ after)) state) := by
    refine withClient_leads hclient ?_
    have hone : ∀ answer, Compactions [(.scheduleCompaction answer : Call ρ)] :=
      fun answer call hcall => ⟨answer, List.mem_singleton.mp hcall⟩
    refine (outside_leads (Watched.called_leads client.scheduleCompaction .scheduleCompaction)).weaken
      (fun _ hs => hs) ?_ ?_
    · exact fun asked _ hs => ⟨_, hone (.ok asked), hs⟩
    · exact fun failure _ hs => ⟨_, hone (.error failure), hs⟩
  refine hrequest.attempt.bind ?_
  rintro (failure | _ | time)
  · exact (Effect.leads_log _ _ _).bind fun _ => Effect.leads_pure fun _ hs => hs
  · exact Effect.leads_pure fun _ hs => hs
  · exact (Effect.leads_log _ _ _).bind fun _ => Effect.leads_pure fun _ hs => hs

theorem publish_leads (records : List PreparedRecord) :
    Effect.Leads (Stands base phase (Recorded calls)) (coordinator.watched.publish records)
      (fun _ => Stands base phase (Recorded calls)) E := by
  unfold publish
  cases hcatalog : coordinator.catalog with
  | none =>
    have hnone : coordinator.watched.catalog = none := by simp [watched, hcatalog]
    rw [hnone]
    exact Effect.leads_pure fun _ hs => hs
  | some trigger =>
    have hsome : coordinator.watched.catalog = some trigger.lifted := by simp [watched, hcatalog]
    rw [hsome]
    dsimp only
    split
    · exact Effect.leads_pure fun _ hs => hs
    · have hsync : Effect.Leads (Recorded calls) trigger.lifted.sync (fun _ => Recorded calls) fun _ _ => False :=
        Watched.sync_leads trigger
      exact (outside_leads hsync).weaken (fun _ hs => hs) (fun _ _ hs => hs) fun _ _ hs => hs.2.elim

end Parts

/-! ## 3. A write -/

section Write

variable {base : CommitState (Watched ρ)} {client : WriteClient ρ} {before : List (Call ρ)}
variable (coordinator : Coordinator ρ) (hclient : base.client = some client.watched)

open Watched (Recorded)

/-- A write went one of its ways; its calls come after those before it. -/
def Ended (coordinator : Coordinator ρ) (base : CommitState (Watched ρ)) (before : List (Call ρ))
    (operation : WriteOperation) (records : List PreparedRecord) (extra : Fields String)
    (outcome : Except Failure CommitResult) (state : CommitState (Watched ρ)) : Prop :=
  ∃ phase calls, Stands base phase (Recorded (before ++ calls)) state ∧
    Exchange coordinator.config operation records extra outcome phase calls

variable (operation : WriteOperation) (records : List PreparedRecord) (checkpoint : String) (marker : Option String)
variable {starts : List (Call ρ)} (hstarts : Refused starts) (time : String)

include hclient hstarts in
/-- Rolling a batch back ends the write with the reason, or with what stood in the way. -/
theorem undo_leads {written : Except Failure WriteOutcome} {reason : Failure}
    (hreason : Objects coordinator.config time written reason) {α : Type} {Q : α → CommitState (Watched ρ) → Prop}
    (extra : Fields String) :
    Effect.Leads
      (Stands base .commitStarted (Recorded (before ++ callsToWrite starts time operation records written)))
      (do coordinator.watched.rollBack time reason; Effect.fail reason) Q
      (fun failure => Ended coordinator base before operation records extra (.error failure)) := by
  refine Effect.Leads.bind ((rollBack_leads coordinator hclient time reason).weaken (fun _ hs => hs)
    (fun _ _ hs => hs) ?_) fun _ => Effect.leads_fail ?_
  · rintro failure state ⟨answer, hanswer, hunable, hs⟩
    exact ⟨_, _, List.append_assoc .. ▸ hs, .decided hstarts time (.stuck hreason hanswer hunable) compactions_nil fun _ => rfl⟩
  · intro state hs
    exact ⟨_, _, List.append_assoc .. ▸ hs, .decided hstarts time (.undone hreason) compactions_nil fun _ => rfl⟩

include hclient in
/-- What follows a commit adds requests for a compaction to the record, and cannot fail. -/
theorem afterwards_leads {calls : List (Call ρ)} {E : Failure → CommitState (Watched ρ) → Prop}
    (result : Option String → Option String → CommitResult) :
    Effect.Leads (Stands base .committed (Recorded calls))
      (do let scheduled ←
            if coordinator.watched.config.asyncCompaction then coordinator.watched.requestCompaction else pure none
          let problem ← coordinator.watched.publish records
          return result scheduled problem)
      (fun answer state => (∃ scheduled problem, answer = result scheduled problem) ∧
        ∃ after, Compactions after ∧ Stands base .committed (Recorded (calls ++ after)) state) E := by
  have hpublish : ∀ (scheduled : Option String) (after : List (Call ρ)), Compactions after →
      Effect.Leads (Stands base .committed (Recorded (calls ++ after)))
        (do let problem ← coordinator.watched.publish records
            return result scheduled problem)
        (fun answer state => (∃ scheduled problem, answer = result scheduled problem) ∧
          ∃ after, Compactions after ∧ Stands base .committed (Recorded (calls ++ after)) state) E :=
    fun scheduled after hafter => (publish_leads coordinator records).bind fun problem =>
      Effect.leads_pure fun state hs => ⟨⟨scheduled, problem, rfl⟩, after, hafter, hs⟩
  dsimp only
  split
  · exact (requestCompaction_leads coordinator hclient).bind fun scheduled => Effect.leads_of_exists fun after =>
      Effect.leads_of_fact fun hafter => hpublish scheduled after hafter
  · have hnone := hpublish none [] compactions_nil
    rw [List.append_nil] at hnone
    exact hnone

include hclient hstarts in
theorem finish_leads {outcome : WriteOutcome} (haccepts : Accepts coordinator.config outcome) :
    Effect.Leads
      (Stands base .commitStarted (Recorded (before ++ callsToWrite starts time operation records (.ok outcome))))
      (coordinator.watched.finish client.watched records checkpoint marker time outcome)
      (fun result => Ended coordinator base before operation records (commitMetadata checkpoint marker) (.ok result))
      (fun failure =>
        Ended coordinator base before operation records (commitMetadata checkpoint marker) (.error failure)) := by
  have hrefused : ∀ answer failure state, answer ≠ Except.ok true →
      Stands base .commitStarted (Recorded (before ++ callsToWrite starts time operation records (.ok outcome) ++
        [.commit time outcome (commitMetadata checkpoint marker) answer])) state →
      Ended coordinator base before operation records (commitMetadata checkpoint marker) (.error failure) state :=
    fun answer failure state hanswer hs =>
      ⟨_, _, List.append_assoc .. ▸ hs,
        .decided hstarts time (.uncommitted haccepts hanswer failure) compactions_nil fun _ => rfl⟩
  refine Effect.Leads.bind ((outside_leads (Watched.called_leads
    (client.commit time outcome (commitMetadata checkpoint marker)) _)).weaken (fun _ hs => hs) (fun _ _ hs => hs)
    fun failure state => hrefused _ _ _ nofun) fun committed => ?_
  split
  next hyes =>
    subst hyes
    refine (enter_leads .committed).bind fun _ => (Effect.leads_log _ _ _).bind fun _ => ?_
    refine (afterwards_leads coordinator hclient records _).weaken (fun _ hs => hs) ?_ fun _ _ hs => hs
    rintro _ state ⟨⟨scheduled, problem, rfl⟩, after, hafter, hs⟩
    refine ⟨_, _, ?_, .decided hstarts time (.committed haccepts rfl) hafter fun h => (h rfl).elim⟩
    simpa using hs
  next hno =>
    have hanswer : Except.ok committed ≠ (Except.ok true : Except Failure Bool) := by simpa using hno
    exact (Effect.leads_log _ _ _).bind fun _ => Effect.leads_report (fun failure state => hrefused _ _ _ hanswer) _ _ _ _

include hclient hstarts in
theorem reject_leads {outcome : WriteOutcome} (hrefused : outcome.hasErrors = true)
    (hcounts : coordinator.config.commitOnErrors = false) {α : Type} {Q : α → CommitState (Watched ρ) → Prop}
    (extra : Fields String) :
    Effect.Leads
      (Stands base .commitStarted (Recorded (before ++ callsToWrite starts time operation records (.ok outcome))))
      (coordinator.watched.rejectOutcome time outcome) Q
      (fun failure => Ended coordinator base before operation records extra (.error failure)) := by
  refine (Effect.leads_log _ _ _).bind fun _ => Effect.Leads.bind ?_ fun _ => Effect.leads_now.bind fun now =>
    undo_leads coordinator hclient operation records hstarts time (.counted hrefused hcounts now) extra
  exact (Effect.leads_log _ _ _).bind fun _ => Effect.Leads.bind
    (Effect.leads_forIn _ _ fun _ => Effect.leads_log _ _ _) fun _ => Effect.leads_pure fun _ hs => hs

include hclient in
/-- Every write goes one of the ways of a write, whatever the client answers. -/
theorem write_leads (named : Option WriteOperation) :
    Effect.Leads (fun state => state = base ∧ Recorded before state.outside)
      (coordinator.watched.write records checkpoint marker (named.map WriteOperation.name))
      (fun result => Ended coordinator base before (named.getD coordinator.config.effective.operation) records
        (commitMetadata checkpoint marker) (.ok result))
      (fun failure => Ended coordinator base before (named.getD coordinator.config.effective.operation) records
        (commitMetadata checkpoint marker) (.error failure)) := by
  have hstart : ∀ state, state = base ∧ Recorded before state.outside →
      Stands base base.phase (Recorded before) state := by
    rintro _ ⟨rfl, hbefore⟩
    exact ⟨rfl, hbefore⟩
  have hname : coordinator.watched.operationName (named.map WriteOperation.name) =
      (named.getD coordinator.config.effective.operation).name := operationName_map coordinator.watched named
  unfold write
  rw [hname]
  generalize named.getD coordinator.config.effective.operation = operation
  refine Effect.Leads.weaken (withClient_leads hclient ?_) hstart (fun _ _ hs => hs) fun _ _ hs => hs
  refine (enter_leads .idle).bind fun _ => Effect.Leads.bind ((startCommit_leads coordinator hclient).weaken
    (fun _ hs => hs) (fun _ _ hs => hs) ?_) fun time => ?_
  · rintro failure state ⟨starts, hstarts, hs⟩
    exact ⟨_, _, hs, .unstarted hstarts failure⟩
  refine Effect.leads_of_exists fun starts => Effect.leads_of_fact fun hstarts => ?_
  refine (enter_leads .commitStarted).bind fun _ => (Effect.leads_log _ _ _).bind fun _ => ?_
  have hcalls : ∀ written : Except Failure WriteOutcome,
      before ++ starts ++ [.startCommit (.ok time)] ++ [.write operation records time written] =
        before ++ callsToWrite starts time operation records written := by
    intro written
    simp [callsToWrite]
  refine (dispatch_leads operation records time).attempt.bind ?_
  rintro (failure | outcome)
  · dsimp only
    rw [hcalls]
    refine (Effect.leads_log _ _ _).bind fun _ => ?_
    exact undo_leads coordinator hclient operation records hstarts time (.raised failure) _
  · dsimp only
    rw [hcalls]
    split
    next hrefused =>
      split
      next hforced =>
        exact (Effect.leads_log _ _ _).bind fun _ =>
          finish_leads coordinator hclient operation records checkpoint marker hstarts time (.inr hforced)
      next hcounts =>
        exact reject_leads coordinator hclient operation records hstarts time hrefused
          (Bool.eq_false_iff.mpr hcounts) _
    next hclean =>
      exact finish_leads coordinator hclient operation records checkpoint marker hstarts time
        (.inl (by simpa using hclean))

end Write

end Coordinator

/-! ## 4. What callers rely on -/

/-- The answer to a write calls for a rollback: it failed, or records were refused and that counts. -/
def Declined (config : SyncConfig) (written : Except Failure WriteOutcome) : Prop :=
  (∃ failure, written = .error failure) ∨
    ∃ outcome, written = .ok outcome ∧ outcome.hasErrors = true ∧ config.commitOnErrors = false

section Calls

variable {config : SyncConfig} {operation : WriteOperation} {records : List PreparedRecord} {extra : Fields String}
variable {outcome : Except Failure CommitResult} {phase : CommitPhase} {starts calls : List (Call ρ)}
variable {time : String} {written : Except Failure WriteOutcome} {reason : Failure} {call : Call ρ}

theorem Refused.notMem (h : Refused calls) (hcall : ∀ failure, call ≠ .startCommit (.error failure)) :
    call ∉ calls := by
  intro hmem
  obtain ⟨failure, hfailure⟩ := h call hmem
  exact hcall failure hfailure

theorem Refused.not_decides (h : Refused calls) (hcall : call ∈ calls) : call.decides = false := by
  obtain ⟨failure, rfl⟩ := h call hcall
  rfl

theorem Compactions.not_decides (h : Compactions calls) (hcall : call ∈ calls) : call.decides = false := by
  obtain ⟨answer, rfl⟩ := h call hcall
  rfl

theorem Objects.declined (h : Objects config time written reason) : Declined config written := by
  cases h with
  | raised reason => exact .inl ⟨reason, rfl⟩
  | counted hrefused hcounts now => exact .inr ⟨_, rfl, hrefused, hcounts⟩

theorem Declined.not_accepts {result : WriteOutcome} (h : Declined config (.ok result)) : ¬Accepts config result := by
  rintro (hclean | hforced)
  · rcases h with ⟨failure, hfailure⟩ | ⟨_, ⟨⟩, hrefused, -⟩
    · cases hfailure
    · simp [hrefused] at hclean
  · rcases h with ⟨failure, hfailure⟩ | ⟨_, ⟨⟩, -, hcounts⟩
    · cases hfailure
    · simp [hforced] at hcounts

namespace Verdict

variable {decision : Call ρ} (h : Verdict config extra time written decision outcome phase)
include h

theorem decides : decision.decides = true := by
  cases h <;> rfl

theorem isCommit_iff : decision.isCommit = true ↔ ∃ result, written = .ok result ∧ Accepts config result := by
  cases h with
  | undone hreason =>
    refine ⟨nofun, ?_⟩
    rintro ⟨result, rfl, haccepts⟩
    exact (hreason.declined.not_accepts haccepts).elim
  | stuck hreason hanswer hfailure =>
    refine ⟨nofun, ?_⟩
    rintro ⟨result, rfl, haccepts⟩
    exact (hreason.declined.not_accepts haccepts).elim
  | committed haccepts hresult => exact ⟨fun _ => ⟨_, rfl, haccepts⟩, fun _ => rfl⟩
  | uncommitted haccepts hanswer failure => exact ⟨fun _ => ⟨_, rfl, haccepts⟩, fun _ => rfl⟩

theorem isRollback_iff : decision.isRollback = true ↔ Declined config written := by
  cases h with
  | undone hreason => exact ⟨fun _ => hreason.declined, fun _ => rfl⟩
  | stuck hreason hanswer hfailure => exact ⟨fun _ => hreason.declined, fun _ => rfl⟩
  | committed haccepts hresult => exact ⟨nofun, fun hdeclined => (hdeclined.not_accepts haccepts).elim⟩
  | uncommitted haccepts hanswer failure => exact ⟨nofun, fun hdeclined => (hdeclined.not_accepts haccepts).elim⟩

theorem succeeds_iff : (∃ result, outcome = .ok result) ↔ ∃ time result extra, decision = .commit time result extra (.ok true) := by
  cases h with
  | undone hreason => simp
  | stuck hreason hanswer hfailure => simp
  | committed haccepts hresult => simp
  | uncommitted haccepts hanswer failure => simp [hanswer]

theorem rolledBack_iff : phase = .rolledBack ↔ ∃ time, decision = .rollback time (.ok true) := by
  cases h with
  | undone hreason => simp
  | stuck hreason hanswer hfailure => simp [hanswer]
  | committed haccepts hresult => simp
  | uncommitted haccepts hanswer failure => simp

end Verdict

section Decided

variable {after : List (Call ρ)} {decision : Call ρ}
variable (hstarts : Refused starts) (hafter : Compactions after) (hdecision : decision.decides = true)
include hstarts hafter

theorem mem_decided_iff (hcall : call.decides = true) :
    call ∈ callsToWrite starts time operation records written ++ decision :: after ↔ call = decision := by
  have hearlier : call ∉ starts := fun hmem => by simp [hstarts.not_decides hmem] at hcall
  have hlater : call ∉ after := fun hmem => by simp [hafter.not_decides hmem] at hcall
  have hstart : call ≠ .startCommit (.ok time) := by
    rintro rfl
    cases hcall
  have hwrite : call ≠ .write operation records time written := by
    rintro rfl
    cases hcall
  simp [callsToWrite, hearlier, hlater, hstart, hwrite]

theorem exists_decided_iff {test : Call ρ → Prop} (htest : ∀ call, test call → call.decides = true) :
    (∃ call ∈ callsToWrite starts time operation records written ++ decision :: after, test call) ↔ test decision := by
  constructor
  · rintro ⟨call, hmem, hcall⟩
    exact (mem_decided_iff hstarts hafter (htest call hcall)).mp hmem ▸ hcall
  · intro hcall
    exact ⟨decision, (mem_decided_iff hstarts hafter (htest decision hcall)).mpr rfl, hcall⟩

include hdecision in
theorem write_mem_iff {other : String} {answer : Except Failure WriteOutcome} :
    .write operation records other answer ∈
        callsToWrite starts time operation records written ++ decision :: after ↔
      other = time ∧ written = answer := by
  have hearlier : Call.write operation records other answer ∉ starts := hstarts.notMem nofun
  have hlater : Call.write operation records other answer ∉ after := by
    intro hmem
    obtain ⟨answer, hanswer⟩ := hafter _ hmem
    cases hanswer
  have hother : Call.write operation records other answer ≠ decision := by
    rintro rfl
    cases hdecision
  simp [callsToWrite, hearlier, hlater, hother, eq_comm]

include hdecision in
theorem countP_decided :
    (callsToWrite starts time operation records written ++ decision :: after).countP Call.decides = 1 := by
  have hearlier : starts.countP Call.decides = 0 :=
    List.countP_eq_zero.mpr fun call hcall => by simp [hstarts.not_decides hcall]
  have hlater : after.countP Call.decides = 0 :=
    List.countP_eq_zero.mpr fun call hcall => by simp [hafter.not_decides hcall]
  have hcalls : (callsToWrite starts time operation records written).countP Call.decides = 0 := by
    simp [callsToWrite, hearlier, Call.decides, Call.isCommit, Call.isRollback]
  rw [List.countP_append, List.countP_cons, hcalls, hlater, hdecision]
  rfl

omit hafter in
theorem started_before {earlier later : List (Call ρ)} (hcall : call.decides = true)
    (hsplit : callsToWrite starts time operation records written ++ decision :: after = earlier ++ call :: later) :
    .startCommit (.ok time) ∈ earlier := by
  have hcalls : starts ++ .startCommit (.ok time) :: .write operation records time written :: decision :: after =
      earlier ++ call :: later := by simpa [callsToWrite] using hsplit
  rcases List.append_eq_append_iff.mp hcalls with ⟨more, rfl, hrest⟩ | ⟨more, hmore, hrest⟩
  · cases more with
    | nil =>
      obtain ⟨rfl, -⟩ := List.cons.inj hrest
      cases hcall
    | cons first more =>
      obtain ⟨rfl, -⟩ := List.cons.inj hrest
      simp
  · cases more with
    | nil =>
      obtain ⟨rfl, -⟩ := List.cons.inj hrest
      cases hcall
    | cons first more =>
      obtain ⟨rfl, -⟩ := List.cons.inj hrest
      have hmem : call ∈ starts := by simp [hmore]
      simp [hstarts.not_decides hmem] at hcall

end Decided

namespace Exchange

variable (h : Exchange config operation records extra outcome phase calls)
include h

/-- Commit and rollback together are called once at most. -/
theorem decides_once : calls.countP Call.decides ≤ 1 := by
  cases h with
  | unstarted hstarts failure =>
    have hnone : calls.countP Call.decides = 0 :=
      List.countP_eq_zero.mpr fun call hcall => by simp [hstarts.not_decides hcall]
    omega
  | decided hstarts time hverdict hafter honly => exact (countP_decided hstarts hafter hverdict.decides).le

theorem decides_after_start {earlier later : List (Call ρ)} (hcall : call.decides = true)
    (hsplit : calls = earlier ++ call :: later) : ∃ time, .startCommit (.ok time) ∈ earlier := by
  cases h with
  | unstarted hstarts failure =>
    have hmem : call ∈ calls := by simp [hsplit]
    simp [hstarts.not_decides hmem] at hcall
  | decided hstarts time hverdict hafter honly => exact ⟨time, started_before hstarts hcall hsplit⟩

/-- The client is asked to commit exactly when the write returned and is accepted. -/
theorem exists_commit_iff : (∃ call ∈ calls, call.isCommit = true) ↔
    ∃ time result, .write operation records time (.ok result) ∈ calls ∧ Accepts config result := by
  cases h with
  | unstarted hstarts failure =>
    have hcommit : ¬∃ call ∈ calls, call.isCommit = true := by
      rintro ⟨call, hmem, hcall⟩
      have hnot := hstarts.not_decides hmem
      simp [Call.decides, hcall] at hnot
    simp [hcommit, hstarts.notMem]
  | decided hstarts started hverdict hafter honly =>
    rw [exists_decided_iff hstarts hafter fun call hcall => by simp [Call.decides, hcall], hverdict.isCommit_iff]
    simp [write_mem_iff hstarts hafter hverdict.decides, and_assoc]

/-- The client is asked to roll back exactly when the write failed, or is not accepted. -/
theorem exists_rollback_iff : (∃ call ∈ calls, call.isRollback = true) ↔
    ∃ time written, .write operation records time written ∈ calls ∧ Declined config written := by
  cases h with
  | unstarted hstarts failure =>
    have hrollback : ¬∃ call ∈ calls, call.isRollback = true := by
      rintro ⟨call, hmem, hcall⟩
      have hnot := hstarts.not_decides hmem
      simp [Call.decides, hcall] at hnot
    simp [hrollback, hstarts.notMem]
  | decided hstarts started hverdict hafter honly =>
    rw [exists_decided_iff hstarts hafter fun call hcall => by simp [Call.decides, hcall], hverdict.isRollback_iff]
    simp [write_mem_iff hstarts hafter hverdict.decides, and_assoc]

/-- A write succeeds exactly when the client confirmed a commit. -/
theorem succeeds_iff : (∃ result, outcome = .ok result) ↔
    ∃ time result extra, .commit time result extra (.ok true) ∈ calls := by
  cases h with
  | unstarted hstarts failure => simp [hstarts.notMem]
  | decided hstarts started hverdict hafter honly =>
    have hcommit : ∀ time result extra, (Call.commit time result extra (.ok true) : Call ρ).decides = true :=
      fun _ _ _ => rfl
    simp only [mem_decided_iff hstarts hafter (hcommit _ _ _)]
    rw [hverdict.succeeds_iff]
    simp only [eq_comm]

theorem phase_of_ok {result : CommitResult} (hok : outcome = .ok result) : phase = .committed := by
  cases h with
  | unstarted hstarts failure => cases hok
  | decided hstarts started hverdict hafter honly =>
    cases hverdict with
    | undone hreason => cases hok
    | stuck hreason hanswer hfailure => cases hok
    | committed haccepts hresult => rfl
    | uncommitted haccepts hanswer failure => cases hok

/-- A write counts as rolled back exactly when the client confirmed it. -/
theorem rolledBack_iff : phase = .rolledBack ↔ ∃ time, .rollback time (.ok true) ∈ calls := by
  cases h with
  | unstarted hstarts failure => simp [hstarts.notMem]
  | decided hstarts started hverdict hafter honly =>
    have hrollback : ∀ time, (Call.rollback time (.ok true) : Call ρ).decides = true := fun _ => rfl
    simp only [mem_decided_iff hstarts hafter (hrollback _)]
    rw [hverdict.rolledBack_iff]
    simp only [eq_comm]

/-- After a rollback the caller learns the reason, and from the failure of one that did not happen, too. -/
theorem failure_of_rollback {time : String} {answer : Except Failure Bool} (hmem : .rollback time answer ∈ calls) :
    ∃ written reason, .write operation records time written ∈ calls ∧ Objects config time written reason ∧
      (answer = .ok true → outcome = .error reason) ∧
      (answer ≠ .ok true → ∃ failure, outcome = .error failure ∧ Unable time reason answer failure) := by
  cases h with
  | unstarted hstarts failure => exact absurd hmem (hstarts.notMem nofun)
  | decided hstarts started hverdict hafter honly =>
    have hdecision := (mem_decided_iff hstarts hafter rfl).mp hmem
    cases hverdict with
    | undone hreason =>
      cases hdecision
      exact ⟨_, _, (write_mem_iff hstarts hafter rfl).mpr ⟨rfl, rfl⟩, hreason, fun _ => rfl, fun hne => (hne rfl).elim⟩
    | stuck hreason hanswer hfailure =>
      cases hdecision
      exact ⟨_, _, (write_mem_iff hstarts hafter rfl).mpr ⟨rfl, rfl⟩, hreason, fun hyes => (hanswer hyes).elim,
        fun _ => ⟨_, rfl, hfailure⟩⟩
    | committed haccepts hresult => cases hdecision
    | uncommitted haccepts hanswer failure => cases hdecision

end Exchange

/-- The failure of a rollback that did not happen is one, and carries the reason and what was raised. -/
theorem Unable.carries {answer : Except Failure Bool} {failure : Failure} (h : Unable time reason answer failure) :
    failure.isOf (.fault .rollback) = true ∧ Fields.get? failure.context "write_failure" = some (.text reason.text) ∧
      ∀ raised, answer = .error raised → failure.cause? = some raised := by
  obtain ⟨message, now, cause, rfl, hcause⟩ := h
  refine ⟨rfl, ?_, hcause⟩
  show Fields.get? (Failure.contextAt now _) _ = _
  rw [Failure.contextAt, Fields.get?_put_of_ne _ _ (by decide)]
  rfl

end Calls

/-- **The commit protocol against any client.** However the calls of a client answer and fail, one write decides on
an instant once at most, by a commit or by a rollback, after a start that returned. It commits exactly when the write
returned and no record was refused or refusals do not count; it rolls back exactly when the write failed, or records
were refused and that counts. It succeeds exactly when a commit was confirmed, counts as rolled back exactly when a
rollback was, and a rollback that was not confirmed is told to the caller together with what led to it. -/
theorem Coordinator.write_protocol (coordinator : Coordinator ρ) (client : WriteClient ρ)
    (records : List PreparedRecord) (checkpoint : String) (marker : Option String) (named : Option WriteOperation)
    {w w' : World (CommitState (Watched ρ))} {outcome : Except Failure CommitResult}
    (hclient : w.state.client = some client.watched) (hcalls : w.state.outside.calls = [])
    (hrun : (coordinator.watched.write records checkpoint marker (named.map WriteOperation.name)).runIn w =
      (outcome, w')) :
    let config := coordinator.config
    let operation := named.getD config.effective.operation
    let calls := w'.state.outside.calls
    calls.countP Call.decides ≤ 1 ∧
      (∀ earlier call later, calls = earlier ++ call :: later → call.decides = true →
        ∃ time, .startCommit (.ok time) ∈ earlier) ∧
      ((∃ call ∈ calls, call.isCommit = true) ↔
        ∃ time result, .write operation records time (.ok result) ∈ calls ∧
          (result.hasErrors = false ∨ config.commitOnErrors = true)) ∧
      ((∃ call ∈ calls, call.isRollback = true) ↔
        ∃ time written, .write operation records time written ∈ calls ∧
          ((∃ failure, written = .error failure) ∨
            ∃ result, written = .ok result ∧ result.hasErrors = true ∧ config.commitOnErrors = false)) ∧
      ((∃ result, outcome = .ok result) ↔ ∃ time result extra, .commit time result extra (.ok true) ∈ calls) ∧
      (∀ result, outcome = .ok result → w'.state.phase = .committed) ∧
      (w'.state.phase = .rolledBack ↔ ∃ time, .rollback time (.ok true) ∈ calls) ∧
      ∀ time answer, .rollback time answer ∈ calls → answer ≠ .ok true →
        ∃ written reason failure, .write operation records time written ∈ calls ∧
          Objects config time written reason ∧ outcome = .error failure ∧
          failure.isOf (.fault .rollback) = true ∧
          Fields.get? failure.context "write_failure" = some (.text reason.text) ∧
          ∀ raised, answer = .error raised → failure.cause? = some raised := by
  intro config operation calls
  have hleads : Effect.Leads (fun state => state = w.state ∧ Watched.Recorded [] state.outside) _ _ _ :=
    write_leads coordinator hclient records checkpoint marker named
  have hended : Ended coordinator w.state [] operation records (commitMetadata checkpoint marker) outcome w'.state := by
    cases outcome with
    | ok result => exact hleads.of_ok ⟨rfl, hcalls⟩ hrun
    | error failure => exact hleads.of_error ⟨rfl, hcalls⟩ hrun
  obtain ⟨phase, exchanged, hstands, hexchange⟩ := hended
  have hphase : w'.state.phase = phase := by rw [hstands.1]
  obtain rfl : calls = exchanged := hstands.2
  rw [hphase]
  refine ⟨hexchange.decides_once, fun _ _ _ hsplit hcall => hexchange.decides_after_start hcall hsplit,
    hexchange.exists_commit_iff, hexchange.exists_rollback_iff, hexchange.succeeds_iff,
    fun _ hok => hexchange.phase_of_ok hok, hexchange.rolledBack_iff, fun time answer hmem hanswer => ?_⟩
  obtain ⟨written, reason, hwrite, hreason, -, hfailed⟩ := hexchange.failure_of_rollback hmem
  obtain ⟨failure, hfailure, hunable⟩ := hfailed hanswer
  exact ⟨written, reason, failure, hwrite, hreason, hfailure, hunable.carries⟩

/-- A client that starts a commit at the second attempt, refuses a record, and does not roll back. -/
def stubbornClient : WriteClient Nat where
  config := { basePath := "/t/events", tableName := "events" }
  startCommit := do
    let attempts ← Effect.state
    Effect.setState (attempts + 1)
    if attempts = 0 then Effect.report .instantState "not yet" [] none else return "20250101000000000"
  write _ _ _ := return ⟨[{ totalRecords := 2, totalErrorRecords := 1 }]⟩
  commit _ _ _ := return true
  rollback _ := return false
  scheduleCompaction := return none
  close := return ()

/-- A store of such clients, without tables. -/
def stubbornStore : TableStore Nat where
  metadataExists _ := return false
  openMetadata path := do Effect.fail (Store.noTable path (← Effect.now))
  initTable _ := return ()
  describeTable path := do Effect.fail (Store.noTable path (← Effect.now))
  createWriteClient config := return { stubbornClient with config }

def stubbornCoordinator : Coordinator Nat where
  config := { targetTable := "events", targetBasePath := "/t/events" }
  store := stubbornStore

/-- The start is attempted twice, and the caller of the write learns that the rollback was refused, and why it was
due. -/
theorem stubborn_write_protocol :
    let w : World (CommitState (Watched Nat)) :=
      ⟨⟨0⟩, [], [], { outside := ⟨0, []⟩, client := some stubbornClient.watched }⟩
    let run := (stubbornCoordinator.watched.write [] "1" none none).runIn w
    w.state.client = some stubbornClient.watched ∧ w.state.outside.calls = [] ∧
      run.2.state.outside.calls.length = 4 ∧ run.2.state.outside.calls.countP Call.decides ≤ 1 ∧
      ∃ time written reason failure, .write .upsert [] time written ∈ run.2.state.outside.calls ∧
        Objects stubbornCoordinator.config time written reason ∧ run.1 = .error failure ∧
        failure.isOf (.fault .rollback) = true ∧
        Fields.get? failure.context "write_failure" = some (.text reason.text) := by
  intro w run
  obtain ⟨honce, -, -, -, -, -, hundone, hrollback⟩ :=
    Coordinator.write_protocol stubbornCoordinator stubbornClient [] "1" none none (w := w) rfl rfl rfl
  have hlength : run.2.state.outside.calls.length = 4 := by decide +kernel
  have hphase : run.2.state.phase ≠ .rolledBack := by decide +kernel
  have hany : run.2.state.outside.calls.any Call.isRollback = true := by decide +kernel
  obtain ⟨call, hmem, hcall⟩ := List.any_eq_true.mp hany
  cases call with
  | rollback time answer =>
    have hanswer : answer ≠ .ok true := by
      rintro rfl
      exact hphase (hundone.mpr ⟨time, hmem⟩)
    obtain ⟨written, reason, failure, hwrite, hreason, houtcome, hkind, hcarries, -⟩ := hrollback time answer hmem hanswer
    exact ⟨rfl, rfl, hlength, honce, time, written, reason, failure, hwrite, hreason, houtcome, hkind, hcarries⟩
  | _ => cases hcall

end TableSync
