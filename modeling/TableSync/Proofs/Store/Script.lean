/-
  TableSync/Proofs/Store/Script.lean
  ==================================
  **A store that is only heard of** — one process's side of a shared store.

  A process that shares a store sees nothing of it but the answers to its own
  operations.  A `Script` is the list of these answers: each operation takes the
  next one, whatever it says and at whatever time it comes.  The first operation
  without an answer is put down as what the process asks for; there the process
  stands until it is answered, and what it does with the failure that it gets
  instead is no part of any run.  So a program run on a script says what the
  process asks for next, and everything that it did before.

  `answered_leads` is the one rule of a script: if all that is told of a table
  fits, and if whatever is asked may be asked, this stays so.
-/
import TableSync.Proofs.Effect
import TableSync.Store.Client
import TableSync.Timeline.Resume

namespace TableSync

/-! ## 1. Scripts -/

/-- The answer to an operation, and the time at which it came. -/
structure Answer where
  now : Timestamp
  reply : Except Failure Warehouse.Reply

/-- The answers that are to come, and the operation that got none. -/
structure Script where
  answers : List Answer := []
  asked : Option Warehouse.Operation := none

namespace Script

variable {α : Type}

/-- There is no answer yet. -/
def unanswered : Failure := .outside .protocol "the store has not answered yet" false

/-- Ask for an operation. -/
def ask (operation : Warehouse.Operation) : Effect Script Warehouse.Reply := Effect.of fun w =>
  match w.state.asked, w.state.answers with
  | none, answer :: rest => (answer.reply, { w with now := answer.now, state := { w.state with answers := rest } })
  | none, [] => (.error unanswered, { w with state := { w.state with asked := some operation } })
  | some _, _ => (.error unanswered, w)

/-- Ask for an operation, and read its answer. -/
def answered (operation : Warehouse.Operation) (read : Warehouse.Reply → Option α) : Effect Script α := do
  match read (← ask operation) with
  | some a => return a
  | none => Effect.fail unanswered

/-- A client that was handed out, as a two-phase writer that is only heard of. -/
def writer (id : Warehouse.ClientId) (config : WriteConfig) : WriteClient Script where
  config := config
  startCommit := answered (.startCommit id) fun | .instant time => some time | _ => none
  write operation records time := answered (.write id operation records (some time)) fun
    | .outcome outcome => some outcome
    | _ => none
  commit time outcome extra := answered (.commit id (some time) outcome extra) fun
    | .truth done => some done
    | _ => none
  rollback time := answered (.rollback id (some time)) fun | .truth done => some done | _ => none
  scheduleCompaction := answered (.scheduleCompaction id) fun | .compaction time => some time | _ => none
  close := answered (.close id) fun | .done => some () | _ => none

/-- The store as a table store that is only heard of. -/
def tableStore : TableStore Script where
  metadataExists basePath := answered (.metadataExists basePath) fun | .truth found => some found | _ => none
  openMetadata basePath := answered (.openMetadata basePath) fun | .metadata metadata => some metadata | _ => none
  initTable shell := answered (.initTable shell) fun | .done => some () | _ => none
  describeTable basePath := answered (.describeTable basePath) fun
    | .description description => some description
    | _ => none
  createWriteClient config := do
    let id ← answered (.newClient config) fun | .client id => some id | _ => none
    return writer id config

end Script

/-! ## 2. What is told, and what may be asked -/

/-- The checkpoint of the last commit on a timeline is among `K`. -/
def Timeline.EndsIn (K : String → Prop) (timeline : Timeline) : Prop :=
  ∀ last checkpoint, timeline.last? = some last →
    (timeline.metadata last).get? checkpointKey = some checkpoint → K checkpoint

/-- A timeline that an answer shows ends with a checkpoint among `K`. -/
def Answer.Tells (K : String → Prop) (answer : Answer) : Prop :=
  ∀ metadata, answer.reply = .ok (.metadata metadata) → metadata.timeline.EndsIn K

namespace Script

variable {K : String → Prop} {α : Type}

/-- Every operation so far was answered, and the answers to come fit. -/
structure Running (K : String → Prop) (script : Script) : Prop where
  answered : script.asked = none
  tells : ∀ answer ∈ script.answers, answer.Tells K

/-- The answers to come fit, and an operation that is asked for may be asked for. -/
structure Fits (K : String → Prop) (J : Warehouse.Operation → Prop) (script : Script) : Prop where
  allowed : ∀ operation, script.asked = some operation → J operation
  tells : ∀ answer ∈ script.answers, answer.Tells K

theorem Running.fits {J : Warehouse.Operation → Prop} {script : Script} (h : script.Running K) : script.Fits K J where
  allowed operation hasked := by
    rw [h.answered] at hasked
    cases hasked
  tells := h.tells

variable (K) (J : Warehouse.Operation → Prop)

/-- An operation that may be asked for: it is answered, or the process stands there. -/
theorem ask_leads {operation : Warehouse.Operation} (hmay : J operation) : Effect.Leads (Fits K J) (ask operation)
    (fun reply script => script.Running K ∧ ∀ metadata, reply = .metadata metadata → metadata.timeline.EndsIn K)
    (fun _ => Fits K J) := by
  intro w hw
  cases hasked : w.state.asked with
  | some other =>
    refine .inr ⟨unanswered, w, ?_, hw⟩
    simp only [ask, Effect.of, Effect.runIn, ExceptT.run, ExceptT.mk, StateT.run, hasked]
  | none =>
    cases hanswers : w.state.answers with
    | nil =>
      refine .inr ⟨unanswered, { w with state := { w.state with asked := some operation } }, ?_, ?_, hw.tells⟩
      · simp only [ask, Effect.of, Effect.runIn, ExceptT.run, ExceptT.mk, StateT.run, hasked, hanswers]
      · intro other hother
        cases hother
        exact hmay
    | cons answer rest =>
      have hrun : (ask operation).runIn w =
          (answer.reply, { w with now := answer.now, state := { w.state with answers := rest } }) := by
        simp only [ask, Effect.of, Effect.runIn, ExceptT.run, ExceptT.mk, StateT.run, hasked, hanswers]
      have hrest : ({ w.state with answers := rest } : Script).Running K := by
        refine ⟨hasked, fun later hlater => hw.tells later ?_⟩
        rw [hanswers]
        exact List.mem_cons_of_mem _ hlater
      have htells : answer.Tells K := hw.tells answer (hanswers ▸ List.mem_cons_self)
      cases hreply : answer.reply with
      | error failure => exact .inr ⟨failure, _, by rw [hrun, hreply], hrest.fits⟩
      | ok reply =>
        refine .inl ⟨reply, _, by rw [hrun, hreply], hrest, ?_⟩
        rintro metadata rfl
        exact htells metadata hreply

theorem answered_leads {operation : Warehouse.Operation} {read : Warehouse.Reply → Option α} (hmay : J operation) :
    Effect.Leads (Fits K J) (answered operation read)
      (fun a script => (∃ reply, read reply = some a ∧ ∀ metadata, reply = .metadata metadata →
        metadata.timeline.EndsIn K) ∧ script.Running K)
      (fun _ => Fits K J) := by
  refine (ask_leads K J hmay).bind fun reply => ?_
  split
  next a ha =>
    apply Effect.leads_pure
    intro script hs
    exact ⟨⟨reply, ha, hs.2⟩, hs.1⟩
  next =>
    apply Effect.leads_fail
    intro script hs
    exact hs.1.fits

/-- Whatever is answered, a script that fits stays one. -/
theorem answered_keeps {operation : Warehouse.Operation} {read : Warehouse.Reply → Option α} (hmay : J operation) :
    Effect.Leads (Fits K J) (answered operation read) (fun _ => Fits K J) (fun _ => Fits K J) := by
  exact (answered_leads K J hmay).weaken (fun _ hs => hs) (fun _ _ hs => hs.2.fits) fun _ _ hs => hs

end Script

end TableSync
