/-
  TableSync/Proofs/Store/Warehouse.lean
  =====================================
  **Operations of a warehouse** — from transactions on the store to steps.

  Each operation has one rule: it asks what its transaction does when it
  succeeds, and answers what the operation leads to.  A failed operation leaves
  the store as it was, and an operation of a client does nothing unless the
  client is open.  That every operation keeps the laws of a store is the first
  use of these rules (`perform_leads`).
-/
import TableSync.Proofs.Effect
import TableSync.Proofs.Store.Commits

namespace TableSync

/-! ## 1. Transactions -/

namespace Warehouse

/-- The clients that were handed out are known, and `P` holds of the store. -/
def Holds (clients : List ClientRecord) (P : Store → Prop) (warehouse : Warehouse) : Prop :=
  warehouse.clients = clients ∧ P warehouse.store

variable {clients : List ClientRecord} {P : Store → Prop} {α : Type}
variable {Q : α → Store → Prop} {E : Store → Prop} {id : ClientId} {known : ClientRecord}

/-- A transaction keeps its store if it succeeds, and changes nothing if it fails. -/
theorem transact_leads {transaction : Store → Timestamp → Except Failure (α × Store)}
    (hok : ∀ s now a changed, P s → transaction s now = .ok (a, changed) → Q a changed) (hE : ∀ s, P s → E s) :
    Effect.Leads (Holds clients P) (transact transaction) (fun a => Holds clients (Q a))
      (fun _ => Holds clients E) := by
  intro w hw
  rcases hrun : transaction w.state.store w.now with failure | ⟨a, changed⟩
  · refine .inr ⟨failure, w, ?_, hw.1, hE _ hw.2⟩
    show (Effect.ofExcept (transaction w.state.store w.now) >>= _ : Effect Warehouse α).runIn w = _
    rw [hrun]
    rfl
  · refine .inl ⟨a, { w with state := { w.state with store := changed } }, ?_, hw.1, hok _ _ _ _ hw.2 hrun⟩
    show (Effect.ofExcept (transaction w.state.store w.now) >>= _ : Effect Warehouse α).runIn w = _
    rw [hrun]
    rfl

/-- No open client is behind a handle. -/
def NotOpen (clients : List ClientRecord) (id : ClientId) : Prop :=
  ∀ known, clients[id]? = some known → known.closed = true

/-- Every operation of a client begins by looking it up; one that is unknown or closed fails. -/
theorem openClient_leads (hE : NotOpen clients id → ∀ s, P s → E s) : Effect.Leads (Holds clients P) (openClient id)
    (fun config w => (∃ known, clients[id]? = some known ∧ known.closed = false ∧ config = known.config) ∧
      Holds clients P w)
    (fun _ => Holds clients E) := by
  refine Effect.leads_state.bind fun warehouse => Effect.leads_of_each ?_
  rintro _ ⟨rfl, hw⟩
  have hfail : NotOpen clients id → ∀ w, w = warehouse → Holds clients E w := by
    rintro hnot _ rfl
    exact ⟨hw.1, hE hnot _ hw.2⟩
  split
  next hnone =>
    refine Effect.leads_fail (hfail fun known hsome => ?_)
    rw [hw.1, hsome] at hnone
    cases hnone
  next known hknown =>
    rw [hw.1] at hknown
    split
    next hclosed =>
      refine Effect.leads_now.bind fun now => Effect.leads_fail (hfail fun other hsome => ?_)
      rw [hknown] at hsome
      cases hsome
      exact hclosed
    next hopen =>
      apply Effect.leads_pure
      rintro _ rfl
      exact ⟨⟨known, hknown, by simpa using hopen, rfl⟩, hw⟩

/-- An operation of a client, from what it does with the configuration of an open one. -/
theorem withClient_leads {f : WriteConfig → Effect Warehouse α} (hE : NotOpen clients id → ∀ s, P s → E s)
    (h : ∀ known, clients[id]? = some known → known.closed = false →
      Effect.Leads (Holds clients P) (f known.config) (fun a => Holds clients (Q a)) (fun _ => Holds clients E)) :
    Effect.Leads (Holds clients P) (openClient id >>= f) (fun a => Holds clients (Q a)) (fun _ => Holds clients E) := by
  refine (openClient_leads hE).bind fun config => Effect.leads_of_fact ?_
  rintro ⟨known, hknown, hopen, rfl⟩
  exact h known hknown hopen

theorem stored_leads : Effect.Leads (Holds clients P) stored (fun s w => P s ∧ Holds clients (fun t => t = s) w)
    (fun _ => Holds clients E) :=
  fun w hw => .inl ⟨w.state.store, w, rfl, hw.2, hw.1, rfl⟩

theorem setStore_leads {changed : Store} {R : Failure → Warehouse → Prop} :
    Effect.Leads (Holds clients P) (setStore changed) (fun _ => Holds clients fun s => s = changed) R :=
  fun w hw => .inl ⟨(), { w with state := { w.state with store := changed } }, rfl, hw.1, rfl⟩

/-! ## 2. Tables -/

theorem metadataExists_leads (basePath : String) : Effect.Leads (Holds clients P) (metadataExists basePath)
    (fun found => Holds clients fun s => found = s.hasTable basePath ∧ P s) (fun _ => Holds clients E) :=
  fun w hw => .inl ⟨_, w, rfl, hw.1, rfl, hw.2⟩

theorem openMetadata_leads (basePath : String) (hE : ∀ s, P s → E s) :
    Effect.Leads (Holds clients P) (openMetadata basePath)
      (fun metadata => Holds clients fun s => P s ∧ ∃ shell, s.table? basePath = some shell ∧
        metadata.timeline = s.timelineOf basePath shell.tableType)
      (fun _ => Holds clients E) := by
  intro w hw
  cases htable : w.state.store.table? basePath with
  | none =>
    refine .inr ⟨Store.noTable basePath w.now, w, ?_, hw.1, hE _ hw.2⟩
    show (w.state.store.openMetadata basePath w.now, w) = _
    rw [Store.openMetadata, htable]
  | some shell =>
    let metadata : TableMetadata :=
      ⟨shell.tableName, shell.tableType, w.state.store.timelineOf basePath shell.tableType⟩
    refine .inl ⟨metadata, w, ?_, hw.1, hw.2, shell, htable, rfl⟩
    show (w.state.store.openMetadata basePath w.now, w) = _
    rw [Store.openMetadata, htable]

theorem describeTable_leads (basePath : String) (hE : ∀ s, P s → E s) :
    Effect.Leads (Holds clients P) (describeTable basePath) (fun _ => Holds clients P) (fun _ => Holds clients E) := by
  intro w hw
  rcases hrun : w.state.store.describeTable basePath w.now with failure | description
  · refine .inr ⟨failure, w, ?_, hw.1, hE _ hw.2⟩
    show (w.state.store.describeTable basePath w.now, w) = _
    rw [hrun]
  · refine .inl ⟨description, w, ?_, hw⟩
    show (w.state.store.describeTable basePath w.now, w) = _
    rw [hrun]

theorem initTable_leads {shell : TableShell} {R : Store → Prop}
    (hok : ∀ s changed, P s → s.initTable shell = .ok changed → R changed) (hE : ∀ s, P s → E s) :
    Effect.Leads (Holds clients P) (initTable shell) (fun _ => Holds clients R) (fun _ => Holds clients E) := by
  refine (Effect.leads_log _ _ _).bind fun _ => stored_leads.bind fun s => Effect.leads_of_fact fun hs => ?_
  refine ((Effect.leads_ofExcept _).weaken (fun _ hw => hw) (fun _ _ hw => hw) fun _ w hw => ?_).bind fun changed =>
    Effect.leads_of_fact fun hchanged => ?_
  · exact ⟨hw.2.1, hw.2.2 ▸ hE s hs⟩
  · exact setStore_leads.weaken (fun _ hw => hw) (fun _ _ hw => ⟨hw.1, hw.2 ▸ hok s changed hs hchanged⟩)
      fun _ _ hw => hw

/-! ## 3. Clients -/

theorem newClient_leads (config : WriteConfig) : Effect.Leads (Holds clients P) (newClient config)
    (fun id => Holds (clients ++ [{ config := config }]) fun s => id = clients.length ∧ P s)
    (fun _ => Holds clients E) := by
  intro w hw
  refine .inl ⟨w.state.clients.length, { w with state := { w.state with
    clients := w.state.clients ++ [{ config := config }] } }, rfl, ?_, congrArg List.length hw.1, hw.2⟩
  exact congrArg (· ++ [{ config := config }]) hw.1

theorem startCommit_leads {R : String → Store → Prop} (hE : ∀ s, P s → E s)
    (hok : ∀ known s now time changed, clients[id]? = some known → known.closed = false → P s →
      s.startCommit known.config now = .ok (time, changed) → R time changed) :
    Effect.Leads (Holds clients P) (startCommit id) (fun time => Holds clients (R time))
      (fun _ => Holds clients E) :=
  withClient_leads (fun _ => hE) fun known hknown hopen =>
    transact_leads (fun s now time changed => hok known s now time changed hknown hopen) hE

theorem scheduleCompaction_leads {R : Option String → Store → Prop} (hE : ∀ s, P s → E s)
    (hok : ∀ known s now asked changed, clients[id]? = some known → known.closed = false → P s →
      s.scheduleCompaction known.config now = .ok (asked, changed) → R asked changed) :
    Effect.Leads (Holds clients P) (scheduleCompaction id) (fun asked => Holds clients (R asked))
      (fun _ => Holds clients E) :=
  withClient_leads (fun _ => hE) fun known hknown hopen =>
    transact_leads (fun s now asked changed => hok known s now asked changed hknown hopen) hE

/-- What a client stages of the records that it is asked to write: the newest of each key, if it combines them, in
the order that the operation asks for. -/
def Batched (config : WriteConfig) (operation : WriteOperation) (records batch : List PreparedRecord) : Prop :=
  ∃ combined, batch = Store.arranged operation combined ∧
    if config.combinesBefore operation then ∃ now, Dedup.keep records now = .ok combined else combined = records

theorem write_leads {operation : WriteOperation} {records : List PreparedRecord} {time : Option String}
    {R : WriteOutcome → Store → Prop} (hE : ∀ s, P s → E s)
    (hok : ∀ known s batch now outcome changed, clients[id]? = some known → known.closed = false →
      Batched known.config operation records batch → P s →
      s.stage known.config operation batch time now = .ok (outcome, changed) → R outcome changed) :
    Effect.Leads (Holds clients P) (write id operation records time) (fun outcome => Holds clients (R outcome))
      (fun _ => Holds clients E) := by
  refine withClient_leads (fun _ => hE) fun known hknown hopen => ?_
  have hstage : ∀ combined, Batched known.config operation records (Store.arranged operation combined) →
      Effect.Leads (Holds clients P)
      (do let outcome ← transact fun store now =>
            store.stage known.config operation (Store.arranged operation combined) time now
          Effect.log .info .store (operation.name ++ " staged " ++
            toString (outcome.totalRecords - outcome.totalErrorRecords) ++ " records for instant " ++
            Value.optionText time ++ ". Errors/Total=" ++ toString outcome.totalErrorRecords ++ "/" ++
            toString outcome.totalRecords)
          return outcome)
      (fun outcome => Holds clients (R outcome)) (fun _ => Holds clients E) := by
    intro combined hbatch
    refine (transact_leads (fun s now outcome changed => hok known s _ now outcome changed hknown hopen hbatch)
      hE).bind fun outcome => ?_
    exact (Effect.leads_log _ _ _).bind fun _ => Effect.leads_pure fun _ hw => hw
  dsimp only
  split
  next hcombines =>
    have hdedup : Effect.Leads (Holds clients P) (Dedup.run records)
        (fun combined w => (∃ now, Dedup.keep records now = .ok combined) ∧ Holds clients P w)
        (fun _ => Holds clients E) :=
      (Dedup.leads_run records).weaken (fun _ hw => hw) (fun _ _ hw => hw) fun _ _ hw => ⟨hw.1, hE _ hw.2⟩
    refine hdedup.bind fun combined => Effect.leads_of_fact fun hkept => hstage combined ⟨combined, rfl, ?_⟩
    rw [if_pos hcombines]
    exact hkept
  next hkeeps =>
    have hpure : Effect.Leads (Holds clients P) (pure records : Effect Warehouse (List PreparedRecord))
        (fun combined w => combined = records ∧ Holds clients P w) (fun _ => Holds clients E) :=
      Effect.leads_pure fun _ hw => ⟨rfl, hw⟩
    refine hpure.bind fun combined => Effect.leads_of_fact fun hsame => hstage combined ⟨combined, rfl, ?_⟩
    rw [if_neg hkeeps]
    exact hsame

/-- What a commit comes to: yes, no where the store refuses it, and a failure where the columns do not take what it
records. -/
theorem commit_leads {time : Option String} {outcome : WriteOutcome} {extra : Fields String}
    {R : Bool → Store → Prop} (hE : NotOpen clients id → ∀ s, P s → E s)
    (hok : ∀ known s now changed, clients[id]? = some known → known.closed = false → P s →
      s.commit known.config time outcome extra now = .ok changed → R true changed)
    (hrefused : ∀ known s now refusal, clients[id]? = some known → known.closed = false → P s →
      refusal ≠ .unrecordable → s.commit known.config time outcome extra now = .error refusal → R false s)
    (huntaken : ∀ known s now, clients[id]? = some known → known.closed = false → P s →
      s.commit known.config time outcome extra now = .error .unrecordable → E s) :
    Effect.Leads (Holds clients P) (commit id time outcome extra) (fun done => Holds clients (R done))
      (fun _ => Holds clients E) := by
  refine withClient_leads hE fun known hknown hopen => stored_leads.bind fun s => Effect.leads_of_fact fun hs => ?_
  refine Effect.leads_now.bind fun now => ?_
  split
  next changed hchanged =>
    refine setStore_leads.bind fun _ => Effect.leads_pure ?_
    exact fun w hw => ⟨hw.1, hw.2 ▸ hok known s now changed hknown hopen hs hchanged⟩
  next hnot =>
    refine (Effect.leads_log _ _ _).bind fun _ => Effect.leads_pure ?_
    exact fun w hw => ⟨hw.1, hw.2 ▸ hrefused known s now _ hknown hopen hs (by decide) hnot⟩
  next htaken =>
    refine (Effect.leads_log _ _ _).bind fun _ => Effect.leads_pure ?_
    exact fun w hw => ⟨hw.1, hw.2 ▸ hrefused known s now _ hknown hopen hs (by decide) htaken⟩
  next hnot => exact Effect.leads_fail fun w hw => ⟨hw.1, hw.2 ▸ huntaken known s now hknown hopen hs hnot⟩

theorem rollback_leads {time : Option String} {R : Bool → Store → Prop} (hE : NotOpen clients id → ∀ s, P s → E s)
    (hok : ∀ known s now, clients[id]? = some known → known.closed = false → P s →
      R (s.rollback known.config time now).1 (s.rollback known.config time now).2) :
    Effect.Leads (Holds clients P) (rollback id time) (fun done => Holds clients (R done))
      (fun _ => Holds clients E) := by
  refine withClient_leads hE fun known hknown hopen => stored_leads.bind fun s => Effect.leads_of_fact fun hs => ?_
  refine Effect.leads_now.bind fun now => ?_
  have hafter := hok known s now hknown hopen hs
  have hsame : (s.rollback known.config time now).1 = false → (s.rollback known.config time now).2 = s :=
    Store.rollback_refused
  revert hafter hsame
  rcases s.rollback known.config time now with ⟨done, changed⟩
  intro hafter hsame
  cases done with
  | true =>
    refine Effect.Leads.bind setStore_leads fun _ => (Effect.leads_log _ _ _).bind fun _ => Effect.leads_pure ?_
    exact fun w hw => ⟨hw.1, hw.2 ▸ hafter⟩
  | false =>
    refine (Effect.leads_log _ _ _).bind fun _ => Effect.leads_pure ?_
    have hchanged : changed = s := hsame rfl
    exact fun w hw => ⟨hw.1, hw.2 ▸ hchanged ▸ hafter⟩

/-! ## 4. Histories -/

/-- Clients that were handed out stay, with their configurations. -/
def ClientsStay (clients later : List ClientRecord) : Prop :=
  ∀ (id : ClientId) (known : ClientRecord), clients[id]? = some known →
    ∃ known' : ClientRecord, later[id]? = some known' ∧ known'.config = known.config

theorem ClientsStay.refl (clients : List ClientRecord) : ClientsStay clients clients :=
  fun _ known hknown => ⟨known, hknown, rfl⟩

theorem ClientsStay.append (clients more : List ClientRecord) : ClientsStay clients (clients ++ more) := by
  intro id known hknown
  have hlt : id < clients.length := (List.getElem?_eq_some_iff.mp hknown).1
  exact ⟨known, by rw [List.getElem?_append_left hlt]; exact hknown, rfl⟩

theorem ClientsStay.close (clients : List ClientRecord) (client : ClientId) :
    ClientsStay clients (clients.modify client fun known => { known with closed := true }) := by
  intro id known hknown
  rw [List.getElem?_modify, hknown]
  split
  · exact ⟨_, rfl, rfl⟩
  · exact ⟨_, rfl, rfl⟩

/-- Every operation keeps the laws of the store and the clients, whether it succeeds or not. -/
theorem perform_leads (operation : Operation) (warehouse : Warehouse) (hlawful : warehouse.store.Lawful) :
    Effect.Leads (fun w => w = warehouse) (perform operation)
      (fun _ w => w.store.Lawful ∧ ClientsStay warehouse.clients w.clients)
      (fun _ w => w.store.Lawful ∧ ClientsStay warehouse.clients w.clients) := by
  have hstart : ∀ w : Warehouse, w = warehouse → Holds warehouse.clients Store.Lawful w := by
    rintro _ rfl
    exact ⟨rfl, hlawful⟩
  have hkept : ∀ w : Warehouse, Holds warehouse.clients Store.Lawful w →
      w.store.Lawful ∧ ClientsStay warehouse.clients w.clients :=
    fun w hw => ⟨hw.2, hw.1 ▸ ClientsStay.refl _⟩
  have hstay : ∀ s : Store, s.Lawful → s.Lawful := fun _ hs => hs
  have hdone : ∀ {β : Type} {step : Effect Warehouse β} (f : β → Reply),
      Effect.Leads (Holds warehouse.clients Store.Lawful) step (fun _ => Holds warehouse.clients Store.Lawful)
        (fun _ => Holds warehouse.clients Store.Lawful) →
      Effect.Leads (fun w => w = warehouse) (do return f (← step))
        (fun _ w => w.store.Lawful ∧ ClientsStay warehouse.clients w.clients)
        (fun _ w => w.store.Lawful ∧ ClientsStay warehouse.clients w.clients) :=
    fun f h => (h.weaken hstart (fun _ _ hw => hw) fun _ w hw => hkept w hw).bind fun _ =>
      Effect.leads_pure fun w hw => hkept w hw
  cases operation with
  | initTable shell =>
    exact hdone (fun _ => .done) (initTable_leads (fun s changed hs hinit => hs.initTable hinit) hstay)
  | metadataExists basePath =>
    refine hdone .truth ((metadataExists_leads basePath).weaken (fun _ hw => hw) ?_ fun _ _ hw => hw)
    exact fun _ _ hw => ⟨hw.1, hw.2.2⟩
  | openMetadata basePath =>
    refine hdone .metadata ((openMetadata_leads basePath hstay).weaken (fun _ hw => hw) ?_ fun _ _ hw => hw)
    exact fun _ _ hw => ⟨hw.1, hw.2.1⟩
  | describeTable basePath =>
    exact hdone .description (describeTable_leads basePath hstay)
  | newClient config =>
    rintro w rfl
    exact .inl ⟨.client w.state.clients.length, _, rfl, hlawful, ClientsStay.append _ _⟩
  | startCommit client =>
    exact hdone .instant (startCommit_leads hstay fun known s now time changed _ _ hs hnew => hs.startCommit hnew)
  | write client operation records time =>
    exact hdone .outcome (write_leads hstay fun known s batch now outcome changed _ _ _ hs hstage => hs.stage hstage)
  | commit client time outcome extra =>
    exact hdone .truth (commit_leads (fun _ => hstay) (fun known s now changed _ _ hs hcommit => hs.commit hcommit)
      (fun known s now refusal _ _ hs _ _ => hs) fun known s now _ _ hs _ => hs)
  | rollback client time =>
    exact hdone .truth (rollback_leads (fun _ => hstay) fun known s now _ _ hs => hs.rollback)
  | scheduleCompaction client =>
    exact hdone .compaction (scheduleCompaction_leads hstay
      fun known s now asked changed _ _ hs hschedule => hs.scheduleCompaction hschedule)
  | close client =>
    rintro w rfl
    exact .inl ⟨.done, _, rfl, hlawful, ClientsStay.close _ _⟩

end Warehouse

end TableSync
