/-
  TableSync/Proofs/Store/Twins.lean
  =================================
  **Two warehouses that agree on a table** — the same operation on both.

  `Agree path own full alone` says of two stores that they have the same part at
  a path, and that the same of its names are taken.  `Twins R step step'` says
  that two steps, run at one moment where `R` holds, answer the same and leave
  states where `R` holds again; there is one rule for each way of making a step.
  A transaction of the table is a twin of itself on agreeing stores, because it
  sees its own part only (`transact_twins`); so is what is read of the table
  (`read_twins`), and so are a client and its counterpart (`openClient_twins`),
  and with them every operation of a client.
-/
import TableSync.Proofs.Store.Part
import TableSync.Proofs.Store.Warehouse

namespace TableSync

/-! ## 1. Stores that agree on a table -/

namespace Store

variable {path : String} {own : String → Prop} {full alone : Store} {α ε : Type}

/-- The stores hold the same of the table at a path, and of the names that are its own the same are taken. -/
structure Agree (path : String) (own : String → Prop) (full alone : Store) : Prop where
  part : alone.part path = full.part path
  names : ∀ name, own name → (name ∈ alone.names ↔ name ∈ full.names)

/-- What is computed from the part of a table is the same of both. -/
theorem Agree.congr (h : Agree path own full alone) {f : Store → α} (hf : ∀ store, f (store.part path) = f store) :
    f alone = f full := by
  rw [← hf alone, h.part, hf full]

/-- A transaction of the table at a path. -/
structure OfTable (path : String) (transaction : Store → Except ε (α × Store)) : Prop where
  part : ∀ store, transaction (store.part path) =
    (transaction store).map fun answer => (answer.1, answer.2.part path)
  touches : ∀ store a after, transaction store = .ok (a, after) → store.Touches path after

theorem map_eq_error {x : Except ε Store} {e : ε} (h : x.map (fun after => ((), after)) = .error e) : x = .error e := by
  cases x with
  | error e' =>
    cases h
    rfl
  | ok after => cases h

theorem map_unit_eq_ok {x : Except ε Store} {after : Store} (h : x.map (fun after => ((), after)) = .ok ((), after)) :
    x = .ok after := by
  cases x with
  | error e => cases h
  | ok other =>
    cases h
    rfl

/-- On stores that agree, a transaction of the table fails alike, or answers alike and leaves stores that agree. -/
theorem Agree.transaction (h : Agree path own full alone) {transaction : Store → Except ε (α × Store)}
    (htable : OfTable path transaction) :
    (∃ e, transaction full = .error e ∧ transaction alone = .error e) ∨
      ∃ a fullAfter aloneAfter, transaction full = .ok (a, fullAfter) ∧ transaction alone = .ok (a, aloneAfter) ∧
        Agree path own fullAfter aloneAfter := by
  have hsame : (transaction alone).map (fun answer => (answer.1, answer.2.part path)) =
      (transaction full).map fun answer => (answer.1, answer.2.part path) := by
    rw [← htable.part, h.part, htable.part]
  cases hfull : transaction full with
  | error e =>
    cases halone : transaction alone with
    | error e' =>
      rw [hfull, halone] at hsame
      cases hsame
      exact .inl ⟨e, rfl, rfl⟩
    | ok answer =>
      rw [hfull, halone] at hsame
      cases hsame
  | ok answer =>
    cases halone : transaction alone with
    | error e' =>
      rw [hfull, halone] at hsame
      cases hsame
    | ok answer' =>
      rw [hfull, halone] at hsame
      obtain ⟨a, fullAfter⟩ := answer
      obtain ⟨a', aloneAfter⟩ := answer'
      obtain ⟨rfl, hpart⟩ := Prod.mk.inj (Except.ok.inj hsame)
      refine .inr ⟨a', fullAfter, aloneAfter, rfl, rfl, hpart, fun name hname => ?_⟩
      rw [(htable.touches _ _ _ hfull).names, (htable.touches _ _ _ halone).names]
      exact h.names name hname

theorem Agree.elsewhere {other : String} {after : Store} (h : Agree path own full alone)
    (htouches : full.Touches other after) (hne : path ≠ other) : Agree path own after alone where
  part := h.part.trans (htouches.elsewhere path hne).symm
  names name hname := by
    rw [htouches.names]
    exact h.names name hname

section Registering

variable {shell : TableShell} {after : Store}

theorem part_initTable_elsewhere (hpath : shell.basePath ≠ path) :
    ({ full with tables := full.tables ++ [shell] } : Store).part path = full.part path := by
  simp [part, hpath]

theorem part_initTable (hpath : shell.basePath = path) :
    ({ full with tables := full.tables ++ [shell] } : Store).part path =
      { full.part path with tables := (full.part path).tables ++ [shell] } := by
  simp [part, hpath]

theorem isNameTaken_iff (store : Store) :
    (store.tables.any fun other => other.tableName == shell.tableName) = true ↔ shell.tableName ∈ store.names := by
  simp [names]

/-- Another table is registered under a name that is none of this one's. -/
theorem Agree.initTable_elsewhere (h : Agree path own full alone) (hinit : full.initTable shell = .ok after)
    (hpath : shell.basePath ≠ path) (hname : ¬own shell.tableName) : Agree path own after alone := by
  unfold Store.initTable at hinit
  split at hinit
  · cases hinit
    exact h
  · split at hinit
    · cases hinit
    · cases hinit
      refine ⟨by rw [part_initTable_elsewhere hpath, h.part], fun name hown => ?_⟩
      have hne : name ≠ shell.tableName := by
        rintro rfl
        exact hname hown
      rw [h.names name hown]
      simp [Store.names, hne]

/-- The table itself is registered on both, or its name is taken on both. -/
theorem Agree.initTable (h : Agree path own full alone) (hpath : shell.basePath = path) (hname : own shell.tableName) :
    (∃ failure, full.initTable shell = .error failure ∧ alone.initTable shell = .error failure) ∨
      ∃ fullAfter aloneAfter, full.initTable shell = .ok fullAfter ∧ alone.initTable shell = .ok aloneAfter ∧
        Agree path own fullAfter aloneAfter := by
  have hhas : alone.hasTable shell.basePath = full.hasTable shell.basePath := by
    subst hpath
    exact h.congr (f := fun store => store.hasTable shell.basePath) fun _ => hasTable_part
  have htaken : (alone.tables.any fun other => other.tableName == shell.tableName) =
      full.tables.any fun other => other.tableName == shell.tableName := by
    rw [Bool.eq_iff_iff, isNameTaken_iff, isNameTaken_iff]
    exact h.names _ hname
  unfold Store.initTable
  rw [hhas, htaken]
  split
  · exact .inr ⟨full, alone, rfl, rfl, h⟩
  · split
    · exact .inl ⟨_, rfl, rfl⟩
    · refine .inr ⟨_, _, rfl, rfl, ?_, fun name hown => ?_⟩
      · rw [part_initTable hpath, part_initTable hpath, h.part]
      · have hold := h.names name hown
        simp only [Store.names, List.map_append, List.mem_append] at hold ⊢
        rw [hold]

end Registering

section Transactions

variable {config : WriteConfig} {now : Timestamp} {named : Option String}

theorem startCommit_ofTable : OfTable config.basePath fun store => store.startCommit config now where
  part _ := startCommit_part rfl
  touches _ _ _ := startCommit_touches

theorem scheduleCompaction_ofTable : OfTable config.basePath fun store => store.scheduleCompaction config now where
  part _ := scheduleCompaction_part rfl
  touches _ _ _ := scheduleCompaction_touches

theorem stage_ofTable (operation : WriteOperation) (records : List PreparedRecord) :
    OfTable config.basePath fun store => store.stage config operation records named now where
  part _ := stage_part operation records rfl
  touches _ _ _ := stage_touches

theorem commit_ofTable (outcome : WriteOutcome) (extra : Fields String) :
    OfTable config.basePath fun store => (store.commit config named outcome extra now).map fun after => ((), after) where
  part store := by
    rw [commit_part outcome extra rfl]
    cases store.commit config named outcome extra now <;> rfl
  touches store a after h := by
    cases hcommit : store.commit config named outcome extra now with
    | error refusal =>
      rw [hcommit] at h
      cases h
    | ok changed =>
      rw [hcommit] at h
      cases h
      exact commit_touches hcommit

theorem rollback_ofTable : OfTable (ε := Failure) config.basePath fun store => .ok (store.rollback config named now) where
  part _ := congrArg Except.ok (rollback_part rfl)
  touches store a after h := by
    have hafter : (store.rollback config named now).2 = after := congrArg Prod.snd (Except.ok.inj h)
    exact hafter ▸ rollback_touches

end Transactions

end Store

/-! ## 2. Twin steps -/

namespace Warehouse

variable {α β : Type} {R : Warehouse → Warehouse → Prop} {step step' : Effect Warehouse α}

/-- Run at one moment on warehouses related by `R`, the steps answer the same and leave warehouses related by `R`. -/
def Twins (R : Warehouse → Warehouse → Prop) (step step' : Effect Warehouse α) : Prop :=
  ∀ w v : World Warehouse, w.now = v.now → R w.state v.state →
    ∃ outcome w' v', step.runIn w = (outcome, w') ∧ step'.runIn v = (outcome, v') ∧ w'.now = v'.now ∧
      R w'.state v'.state

theorem Twins.ofPure (a : α) : Twins R (pure a) (pure a) :=
  fun w v hnow hR => ⟨.ok a, w, v, rfl, rfl, hnow, hR⟩

theorem Twins.ofExcept (outcome : Except Failure α) : Twins R (Effect.ofExcept outcome) (Effect.ofExcept outcome) :=
  fun w v hnow hR => ⟨outcome, w, v, rfl, rfl, hnow, hR⟩

theorem Twins.ofLog (level : LogLevel) (topic : Topic) (message : String) :
    Twins R (Effect.log level topic message) (Effect.log level topic message) :=
  fun _ _ hnow hR => ⟨.ok (), _, _, rfl, rfl, hnow, hR⟩

theorem Twins.ofNow : Twins R Effect.now Effect.now :=
  fun w v hnow hR => ⟨.ok w.now, w, v, rfl, by rw [hnow]; rfl, hnow, hR⟩

theorem Twins.bind {f f' : α → Effect Warehouse β} (first : Twins R step step')
    (second : ∀ a, Twins R (f a) (f' a)) : Twins R (step >>= f) (step' >>= f') := by
  intro w v hnow hR
  obtain ⟨outcome, w₁, v₁, hw, hv, hnow₁, hR₁⟩ := first w v hnow hR
  cases outcome with
  | error failure =>
    exact ⟨.error failure, w₁, v₁, Effect.runIn_bind_error hw, Effect.runIn_bind_error hv, hnow₁, hR₁⟩
  | ok a =>
    obtain ⟨outcome, w₂, v₂, hw₂, hv₂, hnow₂, hR₂⟩ := second a w₁ v₁ hnow₁ hR₁
    exact ⟨outcome, w₂, v₂, (Effect.runIn_bind_ok hw).trans hw₂, (Effect.runIn_bind_ok hv).trans hv₂, hnow₂, hR₂⟩

theorem Twins.ofDedup (records : List PreparedRecord) : Twins R (Dedup.run records) (Dedup.run records) := by
  refine Twins.ofNow.bind fun now => (Twins.ofExcept _).bind fun winners => ?_
  dsimp only
  split
  · exact (Twins.ofLog _ _ _).bind fun _ => Twins.ofPure _
  · exact Twins.ofPure _

/-! ## 3. Operations on both -/

variable {path : String} {own : String → Prop} {fullClients aloneClients : List ClientRecord}

/-- The warehouses have the clients that are named, and their stores agree on a table. -/
def Both (path : String) (own : String → Prop) (fullClients aloneClients : List ClientRecord)
    (full alone : Warehouse) : Prop :=
  full.clients = fullClients ∧ alone.clients = aloneClients ∧ Store.Agree path own full.store alone.store

theorem transact_runIn (transaction : Store → Timestamp → Except Failure (α × Store)) (w : World Warehouse) :
    (transact transaction).runIn w = match transaction w.state.store w.now with
      | .ok (a, changed) => (.ok a, { w with state := { w.state with store := changed } })
      | .error failure => (.error failure, w) := by
  show (Effect.ofExcept (transaction w.state.store w.now) >>= _ : Effect Warehouse α).runIn w = _
  cases transaction w.state.store w.now <;> rfl

theorem transact_twins {transaction : Store → Timestamp → Except Failure (α × Store)}
    (htable : ∀ now, Store.OfTable path fun store => transaction store now) :
    Twins (Both path own fullClients aloneClients) (transact transaction) (transact transaction) := by
  rintro w v hnow ⟨hfull, halone, hagree⟩
  rw [transact_runIn transaction w, transact_runIn transaction v, ← hnow]
  rcases hagree.transaction (htable w.now) with ⟨failure, hw, hv⟩ | ⟨a, fullAfter, aloneAfter, hw, hv, hafter⟩
  · rw [hw, hv]
    exact ⟨_, w, v, rfl, rfl, hnow, hfull, halone, hagree⟩
  · rw [hw, hv]
    exact ⟨_, _, _, rfl, rfl, rfl, hfull, halone, hafter⟩

theorem read_twins {read : Store → Timestamp → Except Failure α}
    (htable : ∀ store now, read (store.part path) now = read store now) :
    Twins (Both path own fullClients aloneClients) (do Effect.ofExcept (read (← stored) (← Effect.now)))
      (do Effect.ofExcept (read (← stored) (← Effect.now))) := by
  rintro w v hnow ⟨hfull, halone, hagree⟩
  have hread : read v.state.store v.now = read w.state.store w.now := by
    rw [← hnow]
    exact hagree.congr (f := fun store => read store w.now) fun store => htable store w.now
  refine ⟨read w.state.store w.now, w, v, rfl, ?_, hnow, hfull, halone, hagree⟩
  rw [← hread]
  rfl

theorem metadataExists_twins :
    Twins (Both path own fullClients aloneClients) (metadataExists path) (metadataExists path) := by
  rintro w v hnow ⟨hfull, halone, hagree⟩
  have hhas : v.state.store.hasTable path = w.state.store.hasTable path :=
    hagree.congr (f := fun store => store.hasTable path) fun _ => Store.hasTable_part
  refine ⟨.ok (w.state.store.hasTable path), w, v, rfl, ?_, hnow, hfull, halone, hagree⟩
  rw [← hhas]
  rfl

theorem openMetadata_twins :
    Twins (Both path own fullClients aloneClients) (openMetadata path) (openMetadata path) :=
  read_twins fun _ _ => Store.openMetadata_part

theorem describeTable_twins :
    Twins (Both path own fullClients aloneClients) (describeTable path) (describeTable path) :=
  read_twins fun _ _ => Store.describeTable_part

theorem initTable_twins {shell : TableShell} (hpath : shell.basePath = path) (hname : own shell.tableName) :
    Twins (Both path own fullClients aloneClients) (initTable shell) (initTable shell) := by
  refine (Twins.ofLog _ _ _).bind fun _ => ?_
  rintro w v hnow ⟨hfull, halone, hagree⟩
  have hstored : ∀ u : World Warehouse, stored.runIn u = (.ok u.state.store, u) := fun _ => rfl
  rw [Effect.runIn_bind_ok (hstored w), Effect.runIn_bind_ok (hstored v)]
  rcases hagree.initTable hpath hname with ⟨failure, hw, hv⟩ | ⟨fullAfter, aloneAfter, hw, hv, hafter⟩
  · rw [hw, hv]
    exact ⟨.error failure, w, v, rfl, rfl, hnow, hfull, halone, hagree⟩
  · rw [hw, hv]
    exact ⟨.ok (), _, _, rfl, rfl, hnow, hfull, halone, hafter⟩

variable {client client' : ClientId} {known : ClientRecord}

theorem openClient_runIn {w : World Warehouse} (hknown : w.state.clients[client]? = some known) :
    (openClient client).runIn w = if known.closed
      then (.error (clientClosed known.config.tableName w.now), w) else (.ok known.config, w) := by
  have hstate : (Effect.state : Effect Warehouse Warehouse).runIn w = (.ok w.state, w) := rfl
  unfold openClient
  rw [Effect.runIn_bind_ok hstate, hknown]
  dsimp only
  split <;> rfl

theorem openClient_twins {f f' : WriteConfig → Effect Warehouse α} (hfull : fullClients[client]? = some known)
    (halone : aloneClients[client']? = some known)
    (h : Twins (Both path own fullClients aloneClients) (f known.config) (f' known.config)) :
    Twins (Both path own fullClients aloneClients) (openClient client >>= f) (openClient client' >>= f') := by
  rintro w v hnow ⟨rfl, rfl, hagree⟩
  have hw := openClient_runIn hfull
  have hv := openClient_runIn halone
  cases hclosed : known.closed with
  | true =>
    rw [if_pos hclosed] at hw hv
    rw [← hnow] at hv
    exact ⟨_, w, v, Effect.runIn_bind_error hw, Effect.runIn_bind_error hv, hnow, rfl, rfl, hagree⟩
  | false =>
    rw [if_neg (by simp [hclosed])] at hw hv
    rw [Effect.runIn_bind_ok hw, Effect.runIn_bind_ok hv]
    exact h w v hnow ⟨rfl, rfl, hagree⟩

section Client

variable (hfull : fullClients[client]? = some known) (halone : aloneClients[client']? = some known)
  (hpath : known.config.basePath = path)
include hfull halone hpath

theorem startCommit_twins :
    Twins (Both path own fullClients aloneClients) (startCommit client) (startCommit client') := by
  subst hpath
  exact openClient_twins hfull halone (transact_twins fun _ => Store.startCommit_ofTable)

theorem scheduleCompaction_twins :
    Twins (Both path own fullClients aloneClients) (scheduleCompaction client) (scheduleCompaction client') := by
  subst hpath
  exact openClient_twins hfull halone (transact_twins fun _ => Store.scheduleCompaction_ofTable)

theorem write_twins (operation : WriteOperation) (records : List PreparedRecord) (time : Option String) :
    Twins (Both path own fullClients aloneClients) (write client operation records time)
      (write client' operation records time) := by
  subst hpath
  refine openClient_twins hfull halone ?_
  have hstage : ∀ combined, Twins (Both known.config.basePath own fullClients aloneClients)
      (transact fun store now => store.stage known.config operation (Store.arranged operation combined) time now)
      (transact fun store now => store.stage known.config operation (Store.arranged operation combined) time now) :=
    fun combined => transact_twins fun _ => Store.stage_ofTable operation _
  dsimp only
  split
  · refine (Twins.ofDedup records).bind fun combined => (hstage combined).bind fun outcome => ?_
    exact (Twins.ofLog _ _ _).bind fun _ => Twins.ofPure _
  · refine (Twins.ofPure records).bind fun combined => (hstage combined).bind fun outcome => ?_
    exact (Twins.ofLog _ _ _).bind fun _ => Twins.ofPure _

theorem commit_twins (time : Option String) (outcome : WriteOutcome) (extra : Fields String) :
    Twins (Both path own fullClients aloneClients) (commit client time outcome extra)
      (commit client' time outcome extra) := by
  subst hpath
  refine openClient_twins hfull halone ?_
  rintro w v hnow ⟨hw, hv, hagree⟩
  have hstored : ∀ u : World Warehouse, stored.runIn u = (.ok u.state.store, u) := fun _ => rfl
  have hclock : ∀ u : World Warehouse, (Effect.now : Effect Warehouse Timestamp).runIn u = (.ok u.now, u) :=
    fun _ => rfl
  rw [Effect.runIn_bind_ok (hstored w), Effect.runIn_bind_ok (hstored v), Effect.runIn_bind_ok (hclock w),
    Effect.runIn_bind_ok (hclock v), ← hnow]
  rcases hagree.transaction (@Store.commit_ofTable known.config w.now time outcome extra) with
    ⟨refusal, hfullRun, haloneRun⟩ | ⟨⟨⟩, fullAfter, aloneAfter, hfullRun, haloneRun, hafter⟩
  · rw [Store.map_eq_error hfullRun, Store.map_eq_error haloneRun]
    cases refusal with
    | notInflight => exact ⟨.ok false, _, _, rfl, rfl, hnow, hw, hv, hagree⟩
    | keyTaken => exact ⟨.ok false, _, _, rfl, rfl, hnow, hw, hv, hagree⟩
    | unrecordable => exact ⟨.error Column.refused, w, v, rfl, rfl, hnow, hw, hv, hagree⟩
  · rw [Store.map_unit_eq_ok hfullRun, Store.map_unit_eq_ok haloneRun]
    exact ⟨.ok true, _, _, rfl, rfl, hnow, hw, hv, hafter⟩

theorem rollback_twins (time : Option String) :
    Twins (Both path own fullClients aloneClients) (rollback client time) (rollback client' time) := by
  subst hpath
  refine openClient_twins hfull halone ?_
  rintro w v hnow ⟨hw, hv, hagree⟩
  have hstored : ∀ u : World Warehouse, stored.runIn u = (.ok u.state.store, u) := fun _ => rfl
  have hclock : ∀ u : World Warehouse, (Effect.now : Effect Warehouse Timestamp).runIn u = (.ok u.now, u) :=
    fun _ => rfl
  rw [Effect.runIn_bind_ok (hstored w), Effect.runIn_bind_ok (hstored v), Effect.runIn_bind_ok (hclock w),
    Effect.runIn_bind_ok (hclock v), ← hnow]
  rcases hagree.transaction (@Store.rollback_ofTable known.config w.now time) with
    ⟨failure, hfullRun, -⟩ | ⟨done, fullAfter, aloneAfter, hfullRun, haloneRun, hafter⟩
  · cases hfullRun
  · rw [Except.ok.inj hfullRun, Except.ok.inj haloneRun]
    cases done with
    | true => exact ⟨.ok true, _, _, rfl, rfl, hnow, hw, hv, hafter⟩
    | false => exact ⟨.ok false, _, _, rfl, rfl, hnow, hw, hv, hagree⟩

end Client

end Warehouse

end TableSync
