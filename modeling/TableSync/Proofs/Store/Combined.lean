/-
  TableSync/Proofs/Store/Combined.lean
  ====================================
  **The newest update** — which record of a batch readers see after an upsert.

  A batch is combined by full key, that is by record key and partition, and its
  winners are applied one after another.  But a table has one row for a record
  key.  So readers see the newest of the records of one partition: of the one
  under which the record key is first seen last.  If all records of a key name
  one partition, that is the newest of them all; otherwise an older update may
  take the place of a newer one (`older_update_visible`).
-/
import Mathlib
import TableSync.Proofs.Record.Newest
import TableSync.Proofs.Store.Examined
import TableSync.Proofs.Store.Replay
import TableSync.Proofs.Store.Twins

namespace TableSync

open Store Dedup

/-! ## 1. The rows of a combined batch -/

section Rows

variable {records winners : List PreparedRecord} {rows versions : List VisibleRow}

/-- The winner that stands last among those of a record key, and which one it is. -/
theorem Dedup.Kept.last_of_recordKey {Stands : List PreparedRecord → PreparedRecord → Prop}
    (h : Kept Stands records winners) {key : String} (hkey : ∃ record ∈ records, record.key.recordKey = key) :
    ∃ winner ∈ winners, (winners.filter fun winner => winner.key.recordKey == key).getLast? = some winner ∧
      ((firstSeen records).filter fun seen => seen.recordKey == key).getLast? = some winner.key := by
  have hmap : (winners.filter fun winner => winner.key.recordKey == key).map (·.key) =
      (firstSeen records).filter fun seen => seen.recordKey == key := by
    rw [← h.keys, List.filter_map]
    rfl
  obtain ⟨record, hrecord, rfl⟩ := hkey
  obtain ⟨winner, hwinner, hsame⟩ := h.mem_keys.2 ⟨record, hrecord, rfl⟩
  have hmem : winner ∈ winners.filter fun winner => winner.key.recordKey == record.key.recordKey :=
    List.mem_filter.2 ⟨hwinner, by rw [hsame]; exact beq_self_eq_true _⟩
  obtain ⟨last, hlast⟩ := Option.isSome_iff_exists.1 (List.getLast?_isSome.2 (List.ne_nil_of_mem hmem))
  refine ⟨last, List.mem_of_mem_filter (List.mem_of_getLast? hlast), hlast, ?_⟩
  rw [← hmap, List.getLast?_map, hlast]
  rfl

/-- Upserted one after another, rows leave the last one of a record. -/
theorem Latest.visible (h : Latest rows versions) {more : List VisibleRow} {basePath key : String} {row : VisibleRow}
    (hlast : (more.filter (VisibleRow.isVersion basePath key)).getLast? = some row) :
    (more.foldl upsertRow rows).filter (VisibleRow.isVersion basePath key) = [row] := by
  rw [h.foldl more basePath key, List.filter_append, List.getLast?_append, hlast]
  rfl

/-- The row that a commit makes of a record that is upserted under its instant. -/
def upsertedRow (basePath time : String) (now : Timestamp) (record : PreparedRecord) : VisibleRow :=
  visibleRow now (stagedRow basePath time .upsert record)

theorem stagedRows_upsert {store : Store} {config : WriteConfig} {time : String}
    (h : ∀ record ∈ records, missingFields config.requiredFields record.payload = []) :
    store.stagedRows config .upsert records time = records.map (stagedRow config.basePath time .upsert) := by
  rw [stagedRows, (accepted_of_none (examine_upsert h)).1, examine_fst]

/-- The rows that one operation staged are applied in the order of staging. -/
theorem versionsOf_staged {operation : WriteOperation} {basePath time : String} {now : Timestamp} :
    versionsOf (records.map (stagedRow basePath time operation)) now =
      records.map fun record => visibleRow now (stagedRow basePath time operation record) := by
  have hoperation : ∀ row ∈ records.map (stagedRow basePath time operation), row.operation = operation := by
    intro row hrow
    obtain ⟨record, -, rfl⟩ := List.mem_map.1 hrow
    rfl
  rw [versionsOf]
  by_cases hupsert : operation = .upsert
  · have hinserts : (records.map (stagedRow basePath time operation)).filter
        (fun row => !(row.operation == .upsert)) = [] :=
      List.filter_eq_nil_iff.2 fun row hrow => by simp [hoperation row hrow, hupsert]
    rw [hinserts, List.nil_append, List.filter_eq_self.2 fun row hrow => by simp [hoperation row hrow, hupsert],
      List.map_map]
    rfl
  · have hupserts : (records.map (stagedRow basePath time operation)).filter
        (fun row => row.operation == .upsert) = [] :=
      List.filter_eq_nil_iff.2 fun row hrow => by simp [hoperation row hrow, hupsert]
    rw [hupserts, List.append_nil, List.filter_eq_self.2 fun row hrow => by simp [hoperation row hrow, hupsert],
      List.map_map]
    rfl

/-- What readers see of a record key after an upsert: the row of the last record with the key. -/
theorem Latest.upserted (h : Latest rows versions) {basePath time key : String} {now : Timestamp}
    {record : PreparedRecord} {visible : List VisibleRow}
    (happlied : applyStaged rows (records.map (stagedRow basePath time .upsert)) now = some visible)
    (hlast : (records.filter fun record => record.key.recordKey == key).getLast? = some record) :
    visible.filter (VisibleRow.isVersion basePath key) = [upsertedRow basePath time now record] := by
  have hversions : versionsOf (records.map (stagedRow basePath time .upsert)) now =
      records.map (upsertedRow basePath time now) := versionsOf_staged
  rw [foldl_upsertRow_of_applyStaged happlied, hversions]
  refine h.visible ?_
  have hfilter : (records.map (upsertedRow basePath time now)).filter (VisibleRow.isVersion basePath key) =
      (records.filter fun record => record.key.recordKey == key).map (upsertedRow basePath time now) := by
    rw [List.filter_map]
    refine congrArg (List.map _) (List.filter_congr fun record _ => ?_)
    simp [VisibleRow.isVersion, upsertedRow, visibleRow, stagedRow]
  rw [hfilter, List.getLast?_map, hlast]
  rfl

end Rows

/-! ## 2. An upsert of a client -/

namespace Warehouse

variable {w w' : World Warehouse} {id : ClientId} {known : ClientRecord} {time : String}
variable {records winners : List PreparedRecord}

/-- A commit that was started: the client is open, and its store has one more instant. -/
theorem startCommit_runIn (hknown : w.state.clients[id]? = some known)
    (hstart : (startCommit id).runIn w = (.ok time, w')) :
    known.closed = false ∧ w'.state.clients = w.state.clients ∧
      w.state.store.startCommit known.config w.now = .ok (time, w'.state.store) := by
  unfold startCommit at hstart
  cases hclosed : known.closed with
  | true =>
    have hopen := openClient_runIn hknown
    rw [hclosed, if_pos rfl] at hopen
    rw [Effect.runIn_bind_error hopen] at hstart
    cases hstart
  | false =>
    have hopen := openClient_runIn hknown
    rw [hclosed, if_neg (by decide)] at hopen
    rw [Effect.runIn_bind_ok hopen, transact_runIn] at hstart
    cases hdone : w.state.store.startCommit known.config w.now with
    | error failure =>
      simp only [hdone] at hstart
      cases hstart
    | ok started =>
      simp only [hdone] at hstart
      cases hstart
      exact ⟨rfl, rfl, rfl⟩

/-- What follows a client's combining goes on with the records that are kept, or with all of them. -/
theorem combined_runIn {operation : WriteOperation} {config : WriteConfig}
    (hcombined : if config.combinesBefore operation then keep records w.now = .ok winners else winners = records) :
    ∃ log, ∀ next : List PreparedRecord → Effect Warehouse WriteOutcome,
      (if config.combinesBefore operation then Dedup.run records >>= next else pure records >>= next).runIn w =
        (next winners).runIn { w with log } := by
  split at hcombined
  next hcombines =>
    obtain ⟨log, hrun⟩ := Dedup.run_runIn (σ := Warehouse) hcombined
    refine ⟨log, fun next => ?_⟩
    rw [if_pos hcombines, Effect.runIn_bind_ok hrun]
  next hkeeps =>
    refine ⟨w.log, fun next => ?_⟩
    rw [if_neg hkeeps, hcombined]
    rfl

/-- A write stages the batch, or what is kept of it if the client combines before the operation, and it fails where
staging does. -/
theorem write_stages (time : String) {operation : WriteOperation}
    (hknown : w.state.clients[id]? = some known) (hopen : known.closed = false)
    (hcombined : if known.config.combinesBefore operation then keep records w.now = .ok winners else winners = records) :
    ∃ w', (write id operation records (some time)).runIn w =
        ((w.state.store.stage known.config operation (arranged operation winners) (some time) w.now).map Prod.fst, w') ∧
      w'.state = match w.state.store.stage known.config operation (arranged operation winners) (some time) w.now with
        | .ok (_, after) => { w.state with store := after }
        | .error _ => w.state := by
  have hclient := openClient_runIn hknown
  rw [hopen, if_neg (by decide)] at hclient
  obtain ⟨log, hgoesOn⟩ := combined_runIn hcombined
  have htransact := transact_runIn
    (fun store now => store.stage known.config operation (arranged operation winners) (some time) now) { w with log }
  rw [write, Effect.runIn_bind_ok hclient]
  dsimp only
  rw [hgoesOn]
  cases hstage : w.state.store.stage known.config operation (arranged operation winners) (some time) w.now with
  | error failure =>
    simp only [hstage] at htransact
    rw [Effect.runIn_bind_error htransact]
    exact ⟨_, rfl, rfl⟩
  | ok staged =>
    simp only [hstage] at htransact
    rw [Effect.runIn_bind_ok htransact]
    exact ⟨_, rfl, rfl⟩

theorem write_runIn {operation : WriteOperation} {outcome : WriteOutcome} {after : Store}
    (hknown : w.state.clients[id]? = some known) (hopen : known.closed = false)
    (hcombined : if known.config.combinesBefore operation then keep records w.now = .ok winners else winners = records)
    (hstage : w.state.store.stage known.config operation (arranged operation winners) (some time) w.now =
      .ok (outcome, after)) :
    ∃ w', (write id operation records (some time)).runIn w = (.ok outcome, w') ∧
      w'.state = { w.state with store := after } := by
  have hstages := write_stages time hknown hopen hcombined
  rw [hstage] at hstages
  exact hstages

theorem write_fails {operation : WriteOperation} {failure : Failure}
    (hknown : w.state.clients[id]? = some known) (hopen : known.closed = false)
    (hcombined : if known.config.combinesBefore operation then keep records w.now = .ok winners else winners = records)
    (hstage : w.state.store.stage known.config operation (arranged operation winners) (some time) w.now =
      .error failure) :
    ∃ w', (write id operation records (some time)).runIn w = (.error failure, w') ∧ w'.state = w.state := by
  have hstages := write_stages time hknown hopen hcombined
  rw [hstage] at hstages
  exact hstages

/-- A write that succeeded: the clients are as they were, and a batch is staged. -/
theorem write_answered {operation : WriteOperation} {named : Option String} {outcome : WriteOutcome}
    (hknown : w.state.clients[id]? = some known)
    (hwrite : (write id operation records named).runIn w = (.ok outcome, w')) :
    w'.state.clients = w.state.clients ∧ ∃ batch now, Batched known.config operation records batch ∧
      w.state.store.stage known.config operation batch named now = .ok (outcome, w'.state.store) := by
  have hleads : Effect.Leads (Holds w.state.clients fun s => s = w.state.store) (write id operation records named)
      (fun outcome => Holds w.state.clients fun after => ∃ batch now, Batched known.config operation records batch ∧
        w.state.store.stage known.config operation batch named now = .ok (outcome, after))
      (fun _ => Holds w.state.clients fun _ => True) := by
    refine write_leads (fun _ _ => trivial) ?_
    rintro found _ batch now outcome changed hfound - hbatch rfl hstage
    obtain rfl : known = found := Option.some.inj (hknown.symm.trans hfound)
    exact ⟨batch, now, hbatch, hstage⟩
  exact hleads.of_ok ⟨rfl, rfl⟩ hwrite

/-- A commit that was answered with yes. -/
theorem commit_answered {named : Option String} {outcome : WriteOutcome} {extra : Fields String}
    (hknown : w.state.clients[id]? = some known)
    (hcommit : (commit id named outcome extra).runIn w = (.ok true, w')) :
    w.state.store.commit known.config named outcome extra w.now = .ok w'.state.store := by
  rcases commit_yields _ _ _ _ _ hcommit with ⟨failure, hfailed, -⟩ | ⟨done, hdone, hafter⟩
  · cases hfailed
  · cases hdone
    obtain ⟨found, hfound, hcommitted⟩ := hafter
    obtain rfl : known = found := Option.some.inj (hknown.symm.trans hfound)
    exact hcommitted

/-- Readers see one row of a record key, and it is the newest of the records of one key of the batch: of the key
under which the record key is first seen last. -/
structure ShowsNewest (records : List PreparedRecord) (rows : List VisibleRow) (basePath time recordKey : String)
    (record : PreparedRecord) : Prop where
  last : ((firstSeen records).filter fun key => key.recordKey == recordKey).getLast? = some record.key
  newest : Newest (ofKey records record.key) record
  shown : ∃ now, rows.filter (VisibleRow.isVersion basePath recordKey) = [upsertedRow basePath time now record]

/-- If its records name one partition, readers see the newest of all of them. -/
theorem ShowsNewest.newest_of_all {rows : List VisibleRow} {basePath key : String} {record : PreparedRecord}
    (h : ShowsNewest records rows basePath time key record)
    (hsame : ∀ other ∈ records, other.key.recordKey = key → other.key = record.key) :
    Newest (records.filter fun other => other.key.recordKey == key) record := by
  have hkey : record.key.recordKey = key := by
    have hmem := List.mem_of_getLast? h.last
    exact beq_iff_eq.1 (List.mem_filter.1 hmem).2
  have hall : (records.filter fun other => other.key.recordKey == key) = ofKey records record.key := by
    refine List.filter_congr fun other hother => ?_
    rw [Bool.eq_iff_iff, beq_iff_eq, decide_eq_true_iff]
    exact ⟨hsame other hother, fun heq => heq ▸ hkey⟩
  rw [hall]
  exact h.newest

/-- **The newest update of a key is visible, within a partition.**  After any history, a client that combines before
upserting starts a commit, upserts a batch that lacks no value and can be compared, and commits.  If the write succeeds,
nothing is refused; if the commit is answered with yes, readers see of each record key of the batch the newest of the
records of one partition; of all its records, if they name one partition.  Between the steps the clock may move. -/
theorem History.upsert_shows_newest {events : List Event} (history : History events w.state)
    (hknown : w.state.clients[id]? = some known) (hcombine : known.config.combineBeforeUpsert = true)
    (hstart : (startCommit id).runIn w = (.ok time, w'))
    (hneeded : ∀ record ∈ records, missingFields known.config.requiredFields record.payload = [])
    (hcomparable : Comparable records) {v v' u u' : World Warehouse} {outcome counts : WriteOutcome}
    {extra : Fields String} (hv : v.state = w'.state)
    (hwrite : (write id .upsert records (some time)).runIn v = (.ok outcome, v')) (hu : u.state = v'.state)
    (hcommit : (commit id (some time) counts extra).runIn u = (.ok true, u')) :
    outcome.totalErrorRecords = 0 ∧
      ∀ recordKey, (∃ record ∈ records, record.key.recordKey = recordKey) → ∃ record ∈ records,
        ShowsNewest records u'.state.store.records known.config.basePath time recordKey record ∧
        ((∀ other ∈ records, other.key.recordKey = recordKey → other.key = record.key) →
          Newest (records.filter fun other => other.key.recordKey == recordKey) record) := by
  obtain ⟨hopen, hclients, hstarted⟩ := startCommit_runIn hknown hstart
  have hlawful := History.lawful history
  have hlatest : Latest w.state.store.records (Deed.applied (events.map Event.deed)) := by
    rw [(History.mirrors history).visible]
    exact latest_foldl _
  have hclient : v.state.clients[id]? = some known := by rw [hv, hclients]; exact hknown
  obtain ⟨hkeeps, batch, now, ⟨combined, hbatch, hcombined⟩, hstage⟩ := write_answered hclient hwrite
  obtain ⟨moment, hcombined⟩ := (if_pos hcombine).mp hcombined
  obtain ⟨winners, hkeep, hkept⟩ := keep_kept (hcomparable.decides : Decides records moment Newest)
  obtain rfl : batch = winners := hbatch.trans (Except.ok.inj (hcombined.symm.trans hkeep))
  have hwinners : batch ⊆ records := fun winner hwinner =>
    List.mem_of_mem_filter (hkept.stands winner hwinner).mem
  have hfull : ∀ winner ∈ batch, missingFields known.config.requiredFields winner.payload = [] :=
    fun winner hwinner => hneeded winner (hwinners hwinner)
  have hstaged : w'.state.store.stage known.config .upsert batch (some time) now = .ok (outcome, v'.state.store) :=
    hv ▸ hstage
  refine ⟨?_, fun recordKey hkey => ?_⟩
  · rw [(stage_outcome hstaged).2]
    exact (accepted_of_none (examine_upsert hfull)).2
  · have hpending := (hlawful.startCommit_pending hstarted).staged hstaged
    have hcommitted := commit_answered (by rw [hu, hkeeps]; exact hclient) hcommit
    rw [hu] at hcommitted
    obtain ⟨later, hvisible⟩ := (hpending.committed hcommitted).records
    obtain ⟨winner, hwinner, hlast, hfirst⟩ := hkept.last_of_recordKey hkey
    have hshows : ShowsNewest records u'.state.store.records known.config.basePath time recordKey winner := by
      rw [stagedRows_upsert hfull] at hvisible
      exact ⟨hfirst, hkept.stands winner hwinner, later, hlatest.upserted hvisible hlast⟩
    exact ⟨winner, hwinners hwinner, hshows, hshows.newest_of_all⟩

def combiningClient : ClientRecord := { config := { basePath := "/t/events", tableName := "events" } }

/-- A table with a client that combines before upserting. -/
def combiningRequests : List (Timestamp × Operation) :=
  [(sampleClock 0, .initTable ⟨"/t/events", "events", .copyOnWrite, "", "archived", none⟩),
   (sampleClock 0, .newClient combiningClient.config)]

def combiningWorld : World Warehouse := { now := sampleClock 10, state := (play {} combiningRequests).2 }

/-- Upsert a batch and commit it. -/
def upsertAll (records : List PreparedRecord) : Effect Warehouse Bool := do
  let time ← startCommit 0
  let outcome ← write 0 .upsert records (some time)
  commit 0 (some time) outcome []

/-- What an upsert that was committed went through. -/
theorem upsertAll_committed {last : World Warehouse} (h : (upsertAll records).runIn w = (.ok true, last)) :
    ∃ time w₁ outcome w₂, (startCommit 0).runIn w = (.ok time, w₁) ∧
      (write 0 .upsert records (some time)).runIn w₁ = (.ok outcome, w₂) ∧
      (commit 0 (some time) outcome []).runIn w₂ = (.ok true, last) := by
  rcases Effect.runIn_bind_cases h with ⟨_, -, hfailed⟩ | ⟨time, w₁, hstart, hrest⟩
  · cases hfailed
  · rcases Effect.runIn_bind_cases hrest with ⟨_, -, hfailed⟩ | ⟨outcome, w₂, hwrite, hcommit⟩
    · cases hfailed
    · exact ⟨time, w₁, outcome, w₂, hstart, hwrite, hcommit⟩

/-- An update of a record in a partition. -/
def updateOf (key partition : String) (ordering : Int) : PreparedRecord :=
  { key := ⟨key, partition⟩, ordering := .int ordering }

theorem comparable_updates (updates : List (String × String × Int)) :
    Comparable (updates.map fun update => updateOf update.1 update.2.1 update.2.2) := by
  refine .inl fun record hrecord => .inr ?_
  obtain ⟨update, -, rfl⟩ := List.mem_map.1 hrecord
  exact ⟨.whole update.2.2, _, rfl, rfl⟩

theorem updateOf_le {key partition partition' : String} {m n : Int}
    (h : (updateOf key partition m).ordering.rank ≤ (updateOf key partition' n).ordering.rank) : m ≤ n := by
  have hrank : ∀ k : Int, (Value.int k).rank = ((toLex (.inl (((k : ℚ) : WithTop ℚ) : Extended)) :
      Extended ⊕ₗ String) : Value.Rank) := fun k => Value.rank_number (n := .whole k) rfl rfl
  rw [updateOf, updateOf, hrank, hrank, WithBot.coe_le_coe, Sum.Lex.inl_le_inl_iff, WithBot.coe_le_coe,
    WithTop.coe_le_coe] at h
  exact_mod_cast h

/-- The updates of one record in one partition, the newest between the others. -/
def settledRecord : List PreparedRecord := [updateOf "a" "eu" 1, updateOf "a" "eu" 7, updateOf "a" "eu" 5]

theorem settledRun : ∃ last, (upsertAll settledRecord).runIn combiningWorld = (.ok true, last) := by
  have hyes : ((upsertAll settledRecord).runIn combiningWorld).1.toOption = some true := by decide +kernel
  rcases hrun : (upsertAll settledRecord).runIn combiningWorld with ⟨failure | done, last⟩
  · rw [hrun] at hyes
    cases hyes
  · rw [hrun] at hyes
    cases hyes
    exact ⟨last, rfl⟩

/-- Of the updates of a record in one partition readers see the newest, though it is not the last one. -/
theorem sample_upsert_shows_newest : ∃ time outcome w₁ w₂ last, (startCommit 0).runIn combiningWorld = (.ok time, w₁) ∧
    (write 0 .upsert settledRecord (some time)).runIn w₁ = (.ok outcome, w₂) ∧
    (commit 0 (some time) outcome []).runIn w₂ = (.ok true, last) ∧
    ∃ now, last.state.store.records.filter (VisibleRow.isVersion "/t/events" "a") =
      [upsertedRow "/t/events" time now (updateOf "a" "eu" 7)] := by
  obtain ⟨last, hrun⟩ := settledRun
  obtain ⟨time, w₁, outcome, w₂, hstart, hwrite, hcommit⟩ := upsertAll_committed hrun
  have hknown : combiningWorld.state.clients[0]? = some combiningClient := rfl
  have hneeded : ∀ record ∈ settledRecord,
      missingFields combiningClient.config.requiredFields record.payload = [] := fun _ _ => rfl
  obtain ⟨-, hshows⟩ := History.upsert_shows_newest (run_play {} combiningRequests) hknown rfl hstart hneeded
    (comparable_updates [("a", "eu", 1), ("a", "eu", 7), ("a", "eu", 5)]) rfl hwrite rfl hcommit
  obtain ⟨record, hrecord, ⟨-, -, now, hrow⟩, hall⟩ := hshows "a" ⟨_, List.mem_cons_self, rfl⟩
  have hone : ∀ other ∈ settledRecord, other.key = ⟨"a", "eu"⟩ := by
    simp [settledRecord, updateOf]
  have hnewest := hall fun other hother _ => (hone other hother).trans (hone record hrecord).symm
  have hseven := hnewest.le (updateOf "a" "eu" 7) (by simp [settledRecord, updateOf])
  have hrecord' : record = updateOf "a" "eu" 7 := by
    simp only [settledRecord, List.mem_cons, List.not_mem_nil, or_false] at hrecord
    rcases hrecord with rfl | rfl | rfl
    · exact absurd (updateOf_le hseven) (by decide)
    · rfl
    · exact absurd (updateOf_le hseven) (by decide)
  exact ⟨time, outcome, w₁, w₂, last, hstart, hwrite, hcommit, now, hrecord' ▸ hrow⟩

/-- The updates of one record in two partitions, the newer one first. -/
def movedRecord : List PreparedRecord := [updateOf "a" "eu" 5, updateOf "a" "us" 3]

theorem movedRun : ∃ last, (upsertAll movedRecord).runIn combiningWorld = (.ok true, last) ∧
    last.state.store.records.map (·.partitionPath) = ["us"] := by
  obtain ⟨outcome, last, hrun, hyes, hpartitions⟩ : ∃ outcome last,
      (upsertAll movedRecord).runIn combiningWorld = (outcome, last) ∧
      outcome.toOption = some true ∧ last.state.store.records.map (·.partitionPath) = ["us"] :=
    ⟨_, _, Prod.mk.eta.symm, by decide +kernel, by decide +kernel⟩
  cases outcome with
  | error failure => cases hyes
  | ok done =>
    cases hyes
    exact ⟨last, hrun, hpartitions⟩

/-- So an older update may take the place of a newer one, if it names another partition. -/
theorem older_update_visible : ¬∀ (events : List Event) (id : ClientId) (known : ClientRecord)
    (records : List PreparedRecord) (time : String) (outcome : WriteOutcome) (extra : Fields String)
    (w w₁ w₂ w₃ : World Warehouse), History events w.state → w.state.clients[id]? = some known →
    known.config.combineBeforeUpsert = true →
    (∀ record ∈ records, missingFields known.config.requiredFields record.payload = []) → Comparable records →
    (startCommit id).runIn w = (.ok time, w₁) → (write id .upsert records (some time)).runIn w₁ = (.ok outcome, w₂) →
    (commit id (some time) outcome extra).runIn w₂ = (.ok true, w₃) →
    ∀ recordKey, (∃ record ∈ records, record.key.recordKey = recordKey) → ∃ record now,
      Newest (records.filter fun other => other.key.recordKey == recordKey) record ∧
      w₃.state.store.records.filter (VisibleRow.isVersion known.config.basePath recordKey) =
        [upsertedRow known.config.basePath time now record] := by
  intro hclaim
  obtain ⟨last, hrun, hpartitions⟩ := movedRun
  obtain ⟨time, w₁, outcome, w₂, hstart, hwrite, hcommit⟩ := upsertAll_committed hrun
  obtain ⟨record, now, hnewest, hrow⟩ := hclaim _ 0 combiningClient movedRecord time outcome [] combiningWorld w₁ w₂ last
    (run_play {} combiningRequests) rfl rfl (fun _ _ => rfl) (comparable_updates [("a", "eu", 5), ("a", "us", 3)])
    hstart hwrite hcommit "a" ⟨_, List.mem_cons_self, rfl⟩
  have hus : record.key.partitionPath = "us" := by
    have hmem : upsertedRow combiningClient.config.basePath time now record ∈ last.state.store.records :=
      List.mem_of_mem_filter (hrow ▸ List.mem_cons_self)
    have hpath := List.mem_map_of_mem (f := VisibleRow.partitionPath) hmem
    rw [hpartitions] at hpath
    exact List.mem_singleton.1 hpath
  have hfive := hnewest.le (updateOf "a" "eu" 5) (by simp [movedRecord, updateOf])
  have hrecord := List.mem_of_mem_filter hnewest.mem
  simp only [movedRecord, List.mem_cons, List.not_mem_nil, or_false] at hrecord
  rcases hrecord with rfl | rfl
  · exact absurd hus (by decide)
  · exact absurd (updateOf_le hfive) (by decide)

end Warehouse

end TableSync
