/-
  TableSync/Proofs/Record/Stages.lean
  ===================================
  **Combining in stages** — what is kept of a batch stands for the batch.

  Ordering values need no order for this.  A pass that succeeds leaves winners
  with keys of their own, whatever its decisions were (`keep_nodup`), and such
  winners go through a second pass without a decision.  So the second pass
  reaches the first record that follows with the winners that the first one
  had there, and goes on from them in the same way (`keep_stages`).
-/
import TableSync.Proofs.Record.Once
import TableSync.Proofs.Record.Winners
import TableSync.Store.Client

namespace TableSync

namespace Dedup

variable {records winners once : List PreparedRecord} {now : Timestamp}

/-! ## 1. Passes that succeed -/

/-- A pass that succeeds keeps one record of each key. -/
theorem keep_nodup (hkeep : keep records now = .ok winners) : (winners.map (·.key)).Nodup := by
  have carries : Carries records now fun _ _ => True := ⟨fun _ _ => trivial, fun _ _ _ _ _ _ _ _ _ => trivial⟩
  exact (carries.kept hkeep).nodup

/-! ## 2. One pass after another -/

theorem keepFrom_append (winners records following : List PreparedRecord) (now : Timestamp) :
    keepFrom winners (records ++ following) now = keepFrom winners records now >>= fun next =>
      keepFrom next following now := by
  induction records generalizing winners with
  | nil => rfl
  | cons record rest ih =>
    rw [List.cons_append, keepFrom, keepFrom, bind_assoc]
    congr 1
    funext next
    exact ih next

theorem keep_append_of_ok (hkeep : keep records now = .ok once) (following : List PreparedRecord) :
    keep (records ++ following) now = keepFrom once following now := by
  rw [keep, keepFrom_append, ← keep, hkeep]
  rfl

theorem keep_again (hkeep : keep records now = .ok once) (later : Timestamp) : keep once later = .ok once :=
  keepFrom_of_nodup (keep_nodup hkeep)

/-- **What is kept of a batch stands for it**, with the same winners or the same failure. -/
theorem keep_stages (hkeep : keep records now = .ok once) (following : List PreparedRecord) (later : Timestamp) :
    keep (once ++ following) later = keep (records ++ following) later := by
  rw [keep_append_of_ok (keep_again hkeep later), keep_append_of_ok (keepFrom_later hkeep later)]

theorem run_runIn_error {σ : Type} {w : World σ} {failure : Failure} (hkeep : keep records w.now = .error failure) :
    (Dedup.run records).runIn w = (.error failure, w) := by
  have hnow : (Effect.now : Effect σ Timestamp).runIn w = (.ok w.now, w) := rfl
  have hfails : (Effect.ofExcept (keep records w.now) : Effect σ _).runIn w = (.error failure, w) := by
    rw [hkeep]
    rfl
  unfold Dedup.run
  rw [Effect.runIn_bind_ok hnow, Effect.runIn_bind_error hfails]

theorem run_outcome {σ : Type} (records : List PreparedRecord) (w : World σ) :
    ∃ log, (Dedup.run records).runIn w = (keep records w.now, { w with log }) := by
  cases hkeep : keep records w.now with
  | ok winners => exact run_runIn hkeep
  | error failure => exact ⟨w.log, run_runIn_error hkeep⟩

theorem keep_of_run {σ : Type} {w v : World σ} (hrun : (Dedup.run records).runIn w = (.ok once, v)) :
    keep records w.now = .ok once := by
  obtain ⟨log, houtcome⟩ := run_outcome records w
  rw [houtcome] at hrun
  exact (Prod.mk.inj hrun).1

/-- Nothing is dropped of what was kept, and so nothing is said in the log. -/
theorem run_again {σ : Type} (hkeep : keep records now = .ok once) (w : World σ) :
    (Dedup.run once).runIn w = (.ok once, w) := by
  have hnow : (Effect.now : Effect σ Timestamp).runIn w = (.ok w.now, w) := rfl
  have hkept : (Effect.ofExcept (keep once w.now) : Effect σ _).runIn w = (.ok once, w) := by
    rw [keep_again hkeep]
    rfl
  unfold Dedup.run
  rw [Effect.runIn_bind_ok hnow, Effect.runIn_bind_ok hkept]
  simp only [Nat.sub_self, ne_eq, not_true_eq_false, if_false]
  rfl

end Dedup

/-! ## 3. Writing what was combined -/

namespace Warehouse

/-- Stage a batch under an instant, arranged as the operation asks for and not combined again. -/
def stageBatch (config : WriteConfig) (operation : WriteOperation) (records : List PreparedRecord)
    (time : Option String) : Effect Warehouse WriteOutcome := do
  let batch := Store.arranged operation records
  let outcome ← transact fun store now => store.stage config operation batch time now
  let staged := outcome.totalRecords - outcome.totalErrorRecords
  Effect.log .info .store (operation.name ++ " staged " ++ toString staged ++ " records for instant " ++
    Value.optionText time ++ ". Errors/Total=" ++ toString outcome.totalErrorRecords ++ "/" ++
    toString outcome.totalRecords)
  return outcome

theorem write_eq (client : ClientId) (operation : WriteOperation) (records : List PreparedRecord)
    (time : Option String) :
    write client operation records time = (do
      let config ← openClient client
      let combined ← if config.combinesBefore operation then Dedup.run records else pure records
      stageBatch config operation combined time) := rfl

/-- Combining leaves winners as they are, so a client that asks for it writes what one does that does not. -/
theorem write_winners {records once : List PreparedRecord} {now : Timestamp} (hkeep : Dedup.keep records now = .ok once)
    (client : ClientId) (operation : WriteOperation) (time : Option String) (w : World Warehouse) :
    (write client operation once time).runIn w = (do
      let config ← openClient client
      stageBatch config operation once time).runIn w := by
  rw [write_eq]
  rcases hopen : (openClient client).runIn w with ⟨failure | config, v⟩
  · rw [Effect.runIn_bind_error hopen, Effect.runIn_bind_error hopen]
  · rw [Effect.runIn_bind_ok hopen, Effect.runIn_bind_ok hopen]
    split
    · rw [Effect.runIn_bind_ok (Dedup.run_again hkeep v)]
    · rfl

end Warehouse

namespace Dedup

/-- **Combining can be done in stages.** Whatever the ordering values are: where combining a batch returns, what it
returns followed by other records has the outcome of the batch followed by them, the same winners or the same failure,
and only the log changes. Combining it again returns it and does not even say anything. A client that combines before
it writes therefore writes what was combined before as a client that does not. -/
theorem run_in_stages {σ ρ : Type} {records once : List PreparedRecord} {w v : World σ}
    (hrun : (Dedup.run records).runIn w = (.ok once, v)) :
    (∀ (following : List PreparedRecord) (u : World ρ), ∃ outcome log log',
      (Dedup.run (once ++ following)).runIn u = (outcome, { u with log }) ∧
        (Dedup.run (records ++ following)).runIn u = (outcome, { u with log := log' })) ∧
      (∀ u : World ρ, (Dedup.run once).runIn u = (.ok once, u)) ∧
      ∀ client operation time u, (Warehouse.write client operation once time).runIn u = (do
        let config ← Warehouse.openClient client
        Warehouse.stageBatch config operation once time).runIn u := by
  have hkeep := keep_of_run hrun
  refine ⟨fun following u => ?_, run_again hkeep, Warehouse.write_winners hkeep⟩
  obtain ⟨log, hstage⟩ := run_outcome (once ++ following) u
  obtain ⟨log', hwhole⟩ := run_outcome (records ++ following) u
  rw [keep_stages hkeep following u.now] at hstage
  exact ⟨_, log, log', hstage, hwhole⟩

/-- Ordering values without an order: one that is no number before a number, lists, and a text of a key of its own. -/
def unorderedBatch : List PreparedRecord :=
  [sampleOf "a" "x" (.float (Float.ofBits 0x7ff8000000000000)) 0, sampleOf "b" "x" (.list [.int 1, .text "t"]) 1,
    sampleOf "a" "x" (.int 3) 2, sampleOf "b" "x" (.list [.int 1, .text "s"]) 3, sampleOf "c" "x" (.text "t") 4]

def unorderedWinners : List PreparedRecord :=
  [sampleOf "a" "x" (.int 3) 2, sampleOf "b" "x" (.list [.int 1, .text "t"]) 1, sampleOf "c" "x" (.text "t") 4]

theorem keep_unorderedBatch : keep unorderedBatch ⟨0⟩ = .ok unorderedWinners := by
  rfl

/-- The sample without an order is combined, and its winners stand for it, whatever follows. -/
theorem unorderedBatch_in_stages :
    ∃ v, (Dedup.run unorderedBatch).runIn { now := ⟨0⟩, state := () } = (.ok unorderedWinners, v) ∧
    (∀ (following : List PreparedRecord) (u : World Warehouse), ∃ outcome log log',
      (Dedup.run (unorderedWinners ++ following)).runIn u = (outcome, { u with log }) ∧
        (Dedup.run (unorderedBatch ++ following)).runIn u = (outcome, { u with log := log' })) ∧
      (∀ u : World Warehouse, (Dedup.run unorderedWinners).runIn u = (.ok unorderedWinners, u)) ∧
      ∀ client operation time u, (Warehouse.write client operation unorderedWinners time).runIn u = (do
        let config ← Warehouse.openClient client
        Warehouse.stageBatch config operation unorderedWinners time).runIn u := by
  obtain ⟨log, hrun⟩ := run_outcome unorderedBatch { now := ⟨0⟩, state := () }
  rw [keep_unorderedBatch] at hrun
  exact ⟨_, hrun, run_in_stages hrun⟩

example : (keep (unorderedWinners ++ [sampleOf "b" "x" (.list [.text "t"]) 5]) ⟨0⟩).toOption = none := by
  rfl

end Dedup

end TableSync
