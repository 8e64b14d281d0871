/-
  TableSync/Proofs/Store/Exposed.lean
  ===================================
  **A store that things happen to** — operations between which the clock moves
  and connections break.

  An `Exposed` store is a warehouse with a list of incidents.  Every operation
  meets the next of them first: the clock moves to any moment, or the operation
  fails with any failure and has done nothing.  A store is `Calm` if none of
  its operations fails that way.  A statement about a round on every exposed
  store covers every clock and every place at which the store can fail.

  The rows that its clients stage are put on record.  A commit takes them out of
  the warehouse again, so this is where a proof finds what a round had staged.
-/
import TableSync.Proofs.Store.Warehouse

namespace TableSync

/-! ## 1. Incidents -/

/-- What happens to an operation of a store before it begins. -/
inductive Incident where
  | passes (now : Timestamp)
  | fails (failure : Failure)

/-- A warehouse, what will happen to its operations, one incident for each, and the rows that were staged
so far. -/
structure Exposed where
  warehouse : Warehouse := {}
  incidents : List Incident := []
  stagings : List StagedRow := []

namespace Exposed

variable {α : Type}

/-- No operation fails but by its own rules. -/
def Calm (exposed : Exposed) : Prop := ∀ failure, Incident.fails failure ∉ exposed.incidents

/-- Meet the next incident. -/
def meet : Effect Exposed Unit := do
  let exposed ← Effect.state
  match exposed.incidents with
  | [] => pure ()
  | incident :: rest =>
    Effect.setState { exposed with incidents := rest }
    match incident with
    | .passes now => Effect.of fun w => (.ok (), { w with now })
    | .fails failure => Effect.fail failure

/-- A step on the warehouse. -/
def inWarehouse (step : Effect Warehouse α) : Effect Exposed α :=
  Effect.within (fun exposed => exposed.warehouse) (fun warehouse exposed => { exposed with warehouse }) step

/-- An operation: it meets an incident, and is performed unless that breaks it. -/
def operate (step : Effect Warehouse α) : Effect Exposed α := do
  meet
  inWarehouse step

/-- A step that may stage rows: those that it adds are put on record. -/
def recorded (step : Effect Exposed α) : Effect Exposed α := do
  let before ← Effect.state
  let answer ← step
  let after ← Effect.state
  let added := after.warehouse.store.staged.drop before.warehouse.store.staged.length
  Effect.setState { after with stagings := after.stagings ++ added }
  return answer

/-- A client that was handed out, as a two-phase writer of the exposed store. -/
def writer (id : Warehouse.ClientId) (config : WriteConfig) : WriteClient Exposed where
  config := config
  startCommit := operate (Warehouse.startCommit id)
  write operation records time := recorded (operate (Warehouse.write id operation records (some time)))
  commit time outcome extra := operate (Warehouse.commit id (some time) outcome extra)
  rollback time := operate (Warehouse.rollback id (some time))
  scheduleCompaction := operate (Warehouse.scheduleCompaction id)
  close := inWarehouse (Warehouse.close id)

/-- The exposed store as a table store. Handing out a client is no operation of the database. -/
def tableStore : TableStore Exposed where
  metadataExists basePath := operate (Warehouse.metadataExists basePath)
  openMetadata basePath := operate (Warehouse.openMetadata basePath)
  initTable shell := operate (Warehouse.initTable shell)
  describeTable basePath := operate (Warehouse.describeTable basePath)
  createWriteClient config := do return writer (← inWarehouse (Warehouse.newClient config)) config

end Exposed

/-! ## 2. Assertions -/

/-- What holds of the warehouse of an exposed store that is calm if `clean` and has the rows of `ledger` on
record. -/
structure Exposed.Holds (clean : Prop) (clients : List ClientRecord) (ledger : List StagedRow) (P : Store → Prop)
    (exposed : Exposed) : Prop where
  calm : clean → exposed.Calm
  stagings : exposed.stagings = ledger
  warehouse : exposed.warehouse.Holds clients P

/-- What holds of the warehouse as long as no client is handed out and nothing is staged. -/
abbrev Exposed.Still (before : Exposed) (clean : Prop) (P : Store → Prop) : Exposed → Prop :=
  Exposed.Holds clean before.warehouse.clients before.stagings P

variable {clean : Prop} {clients : List ClientRecord} {ledger : List StagedRow} {P : Store → Prop} {α : Type}

namespace Exposed

theorem Holds.mono {Q : Store → Prop} (h : ∀ s, P s → Q s) {exposed : Exposed}
    (hP : exposed.Holds clean clients ledger P) : exposed.Holds clean clients ledger Q :=
  ⟨hP.calm, hP.stagings, hP.warehouse.1, h _ hP.warehouse.2⟩

/-- Meeting an incident leaves the warehouse alone, and fails only if the store is not calm. -/
theorem meet_leads : Effect.Leads (Holds clean clients ledger P) meet (fun _ => Holds clean clients ledger P)
    (fun _ exposed => ¬clean ∧ exposed.Holds clean clients ledger P) := by
  refine Effect.Leads.ofState fun exposed hs => ?_
  split
  next =>
    apply Effect.leads_pure
    rintro _ rfl
    exact hs
  next incident rest hincidents =>
    refine (Effect.leads_setState _).bind fun _ => ?_
    cases incident with
    | passes now =>
      have hrest : Holds clean clients ledger P { exposed with incidents := rest } := by
        refine ⟨fun hclean failure hmem => ?_, hs.stagings, hs.warehouse⟩
        apply hs.calm hclean failure
        rw [hincidents]
        exact List.mem_cons_of_mem _ hmem
      intro w hw
      exact .inl ⟨(), { w with now }, rfl, hw ▸ hrest⟩
    | fails failure =>
      have hnot : ¬clean := by
        intro hclean
        apply hs.calm hclean failure
        rw [hincidents]
        exact List.mem_cons_self
      apply Effect.leads_fail
      rintro _ rfl
      exact ⟨hnot, fun hclean => absurd hclean hnot, hs.stagings, hs.warehouse⟩

theorem inWarehouse_leads {clients' : α → List ClientRecord} {Q : α → Store → Prop} {E : Store → Prop}
    {step : Effect Warehouse α}
    (h : Effect.Leads (Warehouse.Holds clients P) step (fun a => Warehouse.Holds (clients' a) (Q a))
      fun _ => Warehouse.Holds clients E) :
    Effect.Leads (Holds clean clients ledger P) (inWarehouse step) (fun a => Holds clean (clients' a) ledger (Q a))
      (fun _ => Holds clean clients ledger E) := by
  refine Effect.Leads.within fun exposed hs => ?_
  exact h.weaken (fun _ hw => hw ▸ hs.warehouse) (fun _ _ hw => ⟨hs.calm, hs.stagings, hw⟩)
    fun _ _ hw => ⟨hs.calm, hs.stagings, hw⟩

/-- What an operation leads to, if its breaking may lead to the same as its failing. -/
theorem operate_leads {Q : α → Store → Prop} {E : Store → Prop} {step : Effect Warehouse α}
    (h : Effect.Leads (Warehouse.Holds clients P) step (fun a => Warehouse.Holds clients (Q a))
      fun _ => Warehouse.Holds clients E)
    (hbreak : ¬clean → ∀ s, P s → E s) :
    Effect.Leads (Holds clean clients ledger P) (operate step) (fun a => Holds clean clients ledger (Q a))
      (fun _ => Holds clean clients ledger E) := by
  have hmeet : Effect.Leads (Holds clean clients ledger P) meet (fun _ => Holds clean clients ledger P)
      (fun _ => Holds clean clients ledger E) :=
    meet_leads.weaken (fun _ hs => hs) (fun _ _ hs => hs) fun _ _ hs => hs.2.mono (hbreak hs.1)
  exact hmeet.bind fun _ => inWarehouse_leads h

/-- A step that stages rows behind those that were there: they are what is put on record. -/
theorem recorded_leads {Q : α → List StagedRow → Store → Prop} {E : Store → Prop} {staged : List StagedRow}
    {step : Effect Exposed α} (hstaged : ∀ s, P s → s.staged = staged)
    (h : Effect.Leads (Holds clean clients ledger P) step
      (fun a => Holds clean clients ledger fun s => ∃ rows, s.staged = staged ++ rows ∧ Q a rows s)
      fun _ => Holds clean clients ledger E) :
    Effect.Leads (Holds clean clients ledger P) (recorded step)
      (fun a exposed => ∃ rows, exposed.Holds clean clients (ledger ++ rows) (Q a rows))
      (fun _ => Holds clean clients ledger E) := by
  refine Effect.Leads.ofState fun before hbefore => ?_
  have hlength : before.warehouse.store.staged = staged := hstaged _ hbefore.warehouse.2
  have hstep : Effect.Leads (fun t => t = before) step
      (fun a => Holds clean clients ledger fun s => ∃ rows, s.staged = staged ++ rows ∧ Q a rows s)
      (fun _ => Holds clean clients ledger E) :=
    h.weaken (by rintro _ rfl; exact hbefore) (fun _ _ hs => hs) fun _ _ hs => hs
  refine hstep.bind fun a => ?_
  refine Effect.Leads.ofState fun after hafter => ?_
  obtain ⟨rows, hrows, hQ⟩ := hafter.warehouse.2
  refine (Effect.leads_setState _).bind fun _ => Effect.leads_pure ?_
  rintro _ rfl
  refine ⟨rows, hafter.calm, ?_, hafter.warehouse.1, hQ⟩
  rw [hlength, hrows, List.drop_left, hafter.stagings]

/-- A new client is added to those that were handed out, whatever happens. -/
theorem newClient_leads {E : Failure → Exposed → Prop} (config : WriteConfig) :
    Effect.Leads (Holds clean clients ledger P) (inWarehouse (Warehouse.newClient config))
      (fun id exposed => id = clients.length ∧ exposed.Holds clean (clients ++ [{ config := config }]) ledger P) E := by
  have hnew : Effect.Leads (Holds clean clients ledger P) (inWarehouse (Warehouse.newClient config))
      (fun id => Holds clean (clients ++ [{ config := config }]) ledger fun s => id = clients.length ∧ P s)
      (fun _ => Holds clean clients ledger fun _ => False) := inWarehouse_leads (Warehouse.newClient_leads config)
  refine hnew.weaken (fun _ hs => hs) ?_ fun _ _ hs => hs.warehouse.2.elim
  intro id exposed hs
  exact ⟨hs.warehouse.2.1, hs.mono fun _ hP => hP.2⟩

theorem createWriteClient_leads {E : Failure → Exposed → Prop} (config : WriteConfig) :
    Effect.Leads (Holds clean clients ledger P) (tableStore.createWriteClient config)
      (fun client exposed => client = writer clients.length config ∧
        exposed.Holds clean (clients ++ [{ config := config }]) ledger P) E := by
  refine (newClient_leads config).bind fun id => Effect.leads_pure ?_
  rintro exposed ⟨rfl, hs⟩
  exact ⟨rfl, hs⟩

end Exposed

end TableSync
