/-
  TableSync/Proofs/Commit/Lifetime.lean
  =====================================
  **One write client for the life of a coordinator** — made once, announced
  once, closed once.

  A `Life` is any sequence of uses of one coordinator: asking for the client
  with or without a schema, writing, closing, in any order and with anything
  happening outside in between.  A coordinator is `Alive` in one of three ways:
  it has had no client yet, it has its client, or it has closed it.  Every use
  keeps it alive (`Alive.turn`), and `Life.one_client` reads off what holds of
  the client: it is the only one, its configuration keeps what the commit
  protocol relies on, the schema stays the one that it was made with, and after
  closing nothing is left to be had.
-/
import TableSync.Proofs.Commit.Protocol
import TableSync.Proofs.Config.Target

namespace TableSync

variable {ρ : Type}

/-! ## 1. The clients on record -/

/-- The clients that were made, with their configurations, those that were announced, and those that were closed. -/
structure Ledger (ρ : Type) where
  created : List (WriteConfig × WriteClient ρ) := []
  announced : List (WriteClient ρ) := []
  closed : List (WriteClient ρ) := []

/-- Put a call down. -/
def Ledger.add (ledger : Ledger ρ) : Call ρ → Ledger ρ
  | .created config (.ok client) => { ledger with created := ledger.created ++ [(config, client)] }
  | .announced client _ => { ledger with announced := ledger.announced ++ [client] }
  | .closed client _ => { ledger with closed := ledger.closed ++ [client] }
  | _ => ledger

/-- What calls amount to. -/
def ledgerOf (calls : List (Call ρ)) : Ledger ρ := calls.foldl Ledger.add {}

@[simp] theorem ledgerOf_snoc (calls : List (Call ρ)) (call : Call ρ) :
    ledgerOf (calls ++ [call]) = (ledgerOf calls).add call := by
  simp [ledgerOf]

/-- Calls of a client at work. -/
def Working (calls : List (Call ρ)) : Prop := ∀ call ∈ calls, ∀ ledger : Ledger ρ, ledger.add call = ledger

theorem ledgerOf_working {calls more : List (Call ρ)} (h : Working more) :
    ledgerOf (calls ++ more) = ledgerOf calls := by
  induction more generalizing calls with
  | nil => rw [List.append_nil]
  | cons call rest ih =>
    have hrest : Working rest := fun other hother => h other (List.mem_cons_of_mem _ hother)
    have hcalls : calls ++ call :: rest = (calls ++ [call]) ++ rest := by simp
    rw [hcalls, ih hrest, ledgerOf_snoc, h call List.mem_cons_self]

theorem Exchange.working {config : SyncConfig} {operation : WriteOperation} {records : List PreparedRecord}
    {extra : Fields String} {outcome : Except Failure CommitResult} {phase : CommitPhase} {calls : List (Call ρ)}
    (h : Exchange config operation records extra outcome phase calls) : Working calls := by
  have hrefused : ∀ {starts : List (Call ρ)}, Refused starts → Working starts := by
    intro starts hstarts call hcall ledger
    obtain ⟨failure, rfl⟩ := hstarts call hcall
    rfl
  cases h with
  | unstarted hstarts failure => exact hrefused hstarts
  | decided hstarts time hverdict hafter honly =>
    intro call hcall ledger
    simp only [callsToWrite, List.append_assoc, List.cons_append, List.nil_append, List.mem_append, List.mem_cons]
      at hcall
    rcases hcall with hstart | rfl | rfl | rfl | hlater
    · exact hrefused hstarts call hstart ledger
    · rfl
    · rfl
    · cases hverdict <;> rfl
    · obtain ⟨answer, rfl⟩ := hafter call hlater
      rfl

/-! ## 2. Uses -/

/-- A call on a coordinator. -/
inductive Use where
  | ensure (provider : Option SchemaProvider) (allowMissing : Bool)
  | write (records : List PreparedRecord) (checkpoint : String) (marker : Option String)
      (operation : Option WriteOperation)
  | close

/-- The call closes the coordinator. -/
def Use.isClose : Use → Bool
  | .close => true
  | _ => false

/-- Use a coordinator. -/
def Coordinator.use {σ : Type} (coordinator : Coordinator σ) : Use → Effect (CommitState σ) Unit
  | .ensure provider allowMissing => discard (coordinator.ensureInitialized provider allowMissing)
  | .write records checkpoint marker operation =>
    discard (coordinator.write records checkpoint marker (operation.map WriteOperation.name))
  | .close => close

/-- The client closes whatever happens. -/
def WriteClient.Closes (client : WriteClient ρ) : Prop :=
  Effect.Leads (fun _ => True) client.close (fun _ _ => True) fun _ _ => False

/-- The store makes a client whenever it is asked to, and its clients close. -/
def TableStore.Builds (store : TableStore ρ) : Prop :=
  ∀ config, Effect.Leads (fun _ => True) (store.createWriteClient config) (fun client _ => client.Closes)
    fun _ _ => False

/-- A failure of writing that the coordinator reports by itself. -/
def WriteRefused (failure : Failure) : Prop := ∃ message context now, failure = .report .write message context now none

/-- The client, the schema provider, the closing and the record of a coordinator. -/
structure Sits (client : Option (WriteClient (Watched ρ))) (provider : Option SchemaProvider) (closed : Bool)
    (ledger : Ledger ρ) (state : CommitState (Watched ρ)) : Prop where
  client : state.client = client
  provider : state.provider = provider
  closed : state.closed = closed
  ledger : ledgerOf state.outside.calls = ledger

namespace Coordinator

variable {client : Option (WriteClient (Watched ρ))} {held : WriteClient ρ} {provider : Option SchemaProvider}
variable {closed : Bool} {ledger : Ledger ρ} (coordinator : Coordinator ρ)

section Uses

variable {E : Failure → CommitState (Watched ρ) → Prop} {Q : Unit → CommitState (Watched ρ) → Prop}

theorem refuse_leads (message : String) {α : Type} {R : α → CommitState (Watched ρ) → Prop} :
    Effect.Leads (Sits client provider closed ledger) (coordinator.watched.refuse message) R
      (fun failure state => WriteRefused failure ∧ Sits client provider closed ledger state) :=
  fun w hw => .inr ⟨_, w, rfl, ⟨_, _, w.now, rfl⟩, hw⟩

theorem ensure_leads_closed (asked : Option SchemaProvider) (allowMissing : Bool) :
    Effect.Leads (Sits client provider true ledger) (coordinator.watched.use (.ensure asked allowMissing)) Q
      (fun failure state => WriteRefused failure ∧ Sits client provider true ledger state) := by
  refine Effect.Leads.discard (Effect.Leads.ofState fun state hs => ?_)
  rw [if_pos hs.closed]
  refine (refuse_leads coordinator _).weaken ?_ (fun _ _ hs => hs) fun _ _ hs => hs
  rintro _ rfl
  exact hs

theorem ensure_leads_kept (asked : Option SchemaProvider) (allowMissing : Bool) :
    Effect.Leads (Sits (some held.watched) provider false ledger) (coordinator.watched.use (.ensure asked allowMissing))
      (fun _ => Sits (some held.watched) provider false ledger) E := by
  refine Effect.Leads.discard (Effect.Leads.ofState fun state hs => ?_)
  rw [if_neg (by simp [hs.closed]), if_pos (by simp [hs.client])]
  apply Effect.leads_pure
  rintro _ rfl
  exact hs

open Watched (Recorded)

theorem modify_leads {change : CommitState (Watched ρ) → CommitState (Watched ρ)}
    {P R : CommitState (Watched ρ) → Prop} (h : ∀ state, P state → R (change state)) :
    Effect.Leads P (modify change) (fun _ => R) E :=
  fun w hw => .inl ⟨(), { w with state := change w.state }, rfl, h _ hw⟩

theorem outside_sits {α : Type} {step : Effect (Watched ρ) α} {F : α → Prop} {after : α → Ledger ρ}
    {G : Failure → Prop} {failed : Ledger ρ}
    (h : ∀ calls, ledgerOf calls = ledger → Effect.Leads (Recorded calls) step
      (fun a watched => F a ∧ ledgerOf watched.calls = after a)
      fun failure watched => G failure ∧ ledgerOf watched.calls = failed) :
    Effect.Leads (Sits client provider closed ledger) (outside step)
      (fun a state => F a ∧ Sits client provider closed (after a) state)
      (fun failure state => G failure ∧ Sits client provider closed failed state) := by
  refine Effect.Leads.within fun state hs => (h _ hs.ledger).weaken ?_ ?_ ?_
  · rintro _ rfl
    rfl
  · exact fun a watched ⟨hF, hafter⟩ => ⟨hF, hs.client, hs.provider, hs.closed, hafter⟩
  · exact fun failure watched ⟨hG, hfailed⟩ => ⟨hG, hs.client, hs.provider, hs.closed, hfailed⟩

/-- A coordinator that has just made its client, and announced it. -/
def Opened (coordinator : Coordinator ρ) (asked : Option SchemaProvider) (state : CommitState (Watched ρ)) : Prop :=
  ∃ config made now, coordinator.config.writeConfig asked now = .ok config ∧ made.Closes ∧
    Sits (some made.watched) asked false ⟨[(config, made)], [made], []⟩ state

theorem announce_leads (config : WriteConfig) (made : WriteClient ρ) (asked : Option SchemaProvider) :
    Effect.Leads (Sits (some made.watched) asked false ⟨[(config, made)], [], []⟩)
      (outside (coordinator.watched.onClientCreated made.watched))
      (fun _ => Sits (some made.watched) asked false ⟨[(config, made)], [made], []⟩)
      (fun _ => Sits (some made.watched) asked false ⟨[(config, made)], [made], []⟩) := by
  have hannounce : ∀ calls, ledgerOf calls = (⟨[(config, made)], [], []⟩ : Ledger ρ) →
      Effect.Leads (Recorded calls) (coordinator.watched.onClientCreated made.watched)
        (fun _ watched => True ∧ ledgerOf watched.calls = ⟨[(config, made)], [made], []⟩)
        (fun _ watched => True ∧ ledgerOf watched.calls = ⟨[(config, made)], [made], []⟩) := by
    intro calls hcalls
    have hadded : ∀ (answer : Except Failure Unit) (watched : Watched ρ),
        Recorded (calls ++ [.announced made.watched.unwatched answer]) watched →
          True ∧ ledgerOf watched.calls = ⟨[(config, made)], [made], []⟩ := by
      intro answer watched hrecord
      rw [hrecord, ledgerOf_snoc, hcalls, WriteClient.unwatched_watched]
      exact ⟨trivial, rfl⟩
    exact (Watched.called_leads _ _).weaken (fun _ hs => hs) (fun _ _ hs => hadded _ _ hs) fun _ _ hs => hadded _ _ hs
  exact (outside_sits hannounce).weaken (fun _ hs => hs) (fun _ _ hs => hs.2) fun _ _ hs => hs.2

section Building

variable (hbuilds : coordinator.store.Builds)
include hbuilds

theorem create_leads (config : WriteConfig) (asked : Option SchemaProvider) :
    Effect.Leads (Sits none asked false {}) (outside (coordinator.watched.store.createWriteClient config))
      (fun client state => (∃ made, client = WriteClient.watched made ∧ made.Closes) ∧
        Sits none asked false ⟨[(config, client.unwatched)], [], []⟩ state)
      (fun _ _ => False) := by
  have hcreate : ∀ calls, ledgerOf calls = ({} : Ledger ρ) →
      Effect.Leads (Recorded calls) (coordinator.watched.store.createWriteClient config)
        (fun client watched => (∃ made, client = WriteClient.watched made ∧ made.Closes) ∧
          ledgerOf watched.calls = ⟨[(config, client.unwatched)], [], []⟩)
        (fun _ watched => False ∧ ledgerOf watched.calls = {}) := by
    intro calls hcalls
    refine ((Watched.watch_leads (hbuilds config)).weaken (fun _ hs => hs) (fun _ _ hs => hs)
      fun _ _ hs => hs.1.elim).bind fun made => Effect.leads_of_fact fun hcloses => Effect.leads_pure ?_
    intro watched hrecord
    refine ⟨⟨made, rfl, hcloses⟩, ?_⟩
    rw [hrecord, ledgerOf_snoc, hcalls, WriteClient.unwatched_watched]
    rfl
  exact (outside_sits hcreate).weaken (fun _ hs => hs) (fun _ _ hs => hs) fun _ _ hs => hs.1

theorem ensure_leads_fresh (asked : Option SchemaProvider) (allowMissing : Bool) :
    Effect.Leads (Sits none none false {}) (coordinator.watched.use (.ensure asked allowMissing))
      (fun _ state => Sits none none false {} state ∨ coordinator.Opened asked state)
      (fun _ state => Sits none none false {} state ∨ coordinator.Opened asked state) := by
  refine Effect.Leads.discard (Effect.Leads.ofState fun state hs => ?_)
  rw [if_neg (by simp [hs.closed]), if_neg (by simp [hs.client])]
  refine Effect.Leads.weaken (P := Sits none none false {}) ?_ ?_ (fun _ _ hs => hs) fun _ _ hs => hs
  · split
    · exact Effect.leads_pure fun _ hs => .inl hs
    · refine (Effect.leads_log _ _ _).bind fun _ => Effect.leads_now.bind fun now => ?_
      refine ((Effect.leads_ofExcept _).weaken (fun _ hs => hs) (fun _ _ hs => hs)
        fun _ _ hs => .inl hs.2).bind fun config => Effect.leads_of_fact fun hconfig => ?_
      refine (modify_leads (R := Sits none asked false {}) fun state hs => ⟨hs.client, rfl, hs.closed, hs.ledger⟩).bind
        fun _ => ?_
      refine ((create_leads coordinator hbuilds config asked).weaken (fun _ hs => hs) (fun _ _ hs => hs)
        fun _ _ hs => hs.elim).bind fun client => Effect.leads_of_fact ?_
      rintro ⟨made, rfl, hcloses⟩
      rw [WriteClient.unwatched_watched]
      refine (modify_leads (R := Sits (some made.watched) asked false ⟨[(config, made)], [], []⟩)
        fun state hs => ⟨rfl, hs.provider, hs.closed, hs.ledger⟩).bind fun _ => ?_
      have hopened : ∀ state, Sits (some made.watched) asked false ⟨[(config, made)], [made], []⟩ state →
          Sits none none false {} state ∨ coordinator.Opened asked state :=
        fun state hs => .inr ⟨config, made, now, hconfig, hcloses, hs⟩
      refine ((announce_leads coordinator config made asked).weaken (fun _ hs => hs) (fun _ _ hs => hs)
        fun _ => hopened).bind fun _ => Effect.leads_pure hopened
  · rintro _ rfl
    exact hs

end Building

theorem write_leads_refused (records : List PreparedRecord) (checkpoint : String) (marker : Option String)
    (operation : Option WriteOperation) :
    Effect.Leads (Sits none provider closed ledger) (coordinator.watched.use (.write records checkpoint marker operation)) Q
      (fun failure state => WriteRefused failure ∧ Sits none provider closed ledger state) := by
  refine Effect.Leads.discard (Effect.Leads.bind (R := fun _ _ => False) (Effect.Leads.ofState fun state hs => ?_)
    fun client w hw => hw.elim)
  rw [hs.client]
  refine (refuse_leads coordinator _).weaken ?_ (fun _ _ hs => hs) fun _ _ hs => hs
  rintro _ rfl
  exact hs

theorem write_leads_kept (records : List PreparedRecord) (checkpoint : String) (marker : Option String)
    (operation : Option WriteOperation) :
    Effect.Leads (Sits (some held.watched) provider closed ledger)
      (coordinator.watched.use (.write records checkpoint marker operation))
      (fun _ => Sits (some held.watched) provider closed ledger)
      (fun _ => Sits (some held.watched) provider closed ledger) := by
  refine Effect.Leads.discard (Effect.leads_of_each fun state hs => ?_)
  have hended : ∀ {operation : WriteOperation} {extra : Fields String} {outcome : Except Failure CommitResult}
      {later : CommitState (Watched ρ)},
      Ended coordinator state state.outside.calls operation records extra outcome later →
        Sits (some held.watched) provider closed ledger later := by
    rintro operation extra outcome later ⟨phase, calls, ⟨hlater, hrecord⟩, hexchange⟩
    refine ⟨?_, ?_, ?_, ?_⟩
    · rw [hlater]
      exact hs.client
    · rw [hlater]
      exact hs.provider
    · rw [hlater]
      exact hs.closed
    · rw [hrecord, ledgerOf_working hexchange.working]
      exact hs.ledger
  refine (write_leads coordinator hs.client records checkpoint marker operation).weaken ?_ (fun _ _ => hended)
    fun _ _ => hended
  rintro _ rfl
  exact ⟨rfl, rfl⟩

theorem close_leads_none :
    Effect.Leads (Sits none provider closed ledger) (coordinator.watched.use .close)
      (fun _ => Sits none provider true ledger) E := by
  refine Effect.Leads.ofState fun state hs => ?_
  rw [hs.client]
  refine modify_leads fun later hlater => ?_
  subst hlater
  exact ⟨hs.client, hs.provider, rfl, hs.ledger⟩

theorem close_leads_some (hcloses : held.Closes) :
    Effect.Leads (Sits (some held.watched) provider false ledger) (coordinator.watched.use .close)
      (fun _ => Sits none provider true { ledger with closed := ledger.closed ++ [held] }) E := by
  have hclose : ∀ calls, ledgerOf calls = ledger → Effect.Leads (Recorded calls) held.watched.close
      (fun _ watched => True ∧ ledgerOf watched.calls = { ledger with closed := ledger.closed ++ [held] })
      (fun _ watched => False ∧ ledgerOf watched.calls = ledger) := by
    rintro calls rfl
    refine (Watched.watch_leads hcloses).weaken (fun _ hs => hs) ?_ fun _ _ hs => hs.1.elim
    rintro _ watched ⟨-, hrecord⟩
    rw [hrecord, ledgerOf_snoc]
    exact ⟨trivial, rfl⟩
  refine Effect.Leads.ofState fun state hs => ?_
  rw [hs.client]
  refine (Effect.leads_log _ _ _).bind fun _ => ?_
  refine (modify_leads (R := Sits none provider false ledger) fun later hlater => ?_).bind fun _ => ?_
  · subst hlater
    exact ⟨rfl, hs.provider, hs.closed, hs.ledger⟩
  refine ((outside_sits hclose).weaken (fun _ hs => hs) (fun _ _ hs => hs) fun _ _ hs => hs.1.elim).bind fun _ => ?_
  exact modify_leads fun later hlater => ⟨hlater.2.client, hlater.2.provider, rfl, hlater.2.ledger⟩

end Uses

end Coordinator

/-! ## 3. Lives -/

/-- A coordinator has had no client, has one, or has closed the one it had. -/
inductive Alive (coordinator : Coordinator ρ) : Bool → CommitState (Watched ρ) → Prop where
  | empty {closed : Bool} {state : CommitState (Watched ρ)} (h : Sits none none closed {} state) :
      Alive coordinator closed state
  | serving {provider : Option SchemaProvider} {config : WriteConfig} {client : WriteClient ρ} {now : Timestamp}
      {state : CommitState (Watched ρ)} (hconfig : coordinator.config.writeConfig provider now = .ok config)
      (hcloses : client.Closes) (h : Sits (some client.watched) provider false ⟨[(config, client)], [client], []⟩ state) :
      Alive coordinator false state
  | ended {provider : Option SchemaProvider} {config : WriteConfig} {client : WriteClient ρ} {now : Timestamp}
      {state : CommitState (Watched ρ)} (hconfig : coordinator.config.writeConfig provider now = .ok config)
      (h : Sits none provider true ⟨[(config, client)], [client], [client]⟩ state) : Alive coordinator true state

/-- The record of a coordinator. -/
def CommitState.ledger (state : CommitState (Watched ρ)) : Ledger ρ := ledgerOf state.outside.calls

/-- A use of a coordinator: after closing it is refused; it makes a first client of the schema that it is asked with;
and it leaves a client and its schema alone. -/
structure Turn (coordinator : Coordinator ρ) (closed : Bool) (use : Use) (before : CommitState (Watched ρ))
    (answer : Except Failure Unit) (after : CommitState (Watched ρ)) : Prop where
  alive : Alive coordinator (closed || use.isClose) after
  refused : closed = true → use.isClose = false → ∃ failure, answer = .error failure ∧ WriteRefused failure
  born : before.ledger.created = [] → after.ledger.created = [] ∨
    ∃ provider allowMissing config client now, use = .ensure provider allowMissing ∧
      coordinator.config.writeConfig provider now = .ok config ∧ after.ledger.created = [(config, client)] ∧
      after.provider = provider
  stays : before.ledger.created ≠ [] → after.ledger.created = before.ledger.created ∧ after.provider = before.provider

section Turns

variable {coordinator : Coordinator ρ} {closed : Bool} {use : Use} {answer : Except Failure Unit}

/-- A use that makes no client and keeps the schema. -/
theorem Turn.of_same {before after : CommitState (Watched ρ)} {client client' : Option (WriteClient (Watched ρ))}
    {provider : Option SchemaProvider} {wasClosed isClosed : Bool} {ledger ledger' : Ledger ρ}
    (hbefore : Sits client provider wasClosed ledger before) (hafter : Sits client' provider isClosed ledger' after)
    (hcreated : ledger'.created = ledger.created) (halive : Alive coordinator (closed || use.isClose) after)
    (hrefused : closed = true → use.isClose = false → ∃ failure, answer = .error failure ∧ WriteRefused failure) :
    Turn coordinator closed use before answer after := by
  have hsame : after.ledger.created = before.ledger.created := by
    rw [CommitState.ledger, hafter.ledger, hcreated, ← hbefore.ledger]
    rfl
  exact ⟨halive, hrefused, fun hnone => .inl (hsame.trans hnone),
    fun _ => ⟨hsame, hafter.provider.trans hbefore.provider.symm⟩⟩

variable {w w' : World (CommitState (Watched ρ))}

theorem Turn.of_empty (h : Sits none none closed {} w.state) (hbuilds : coordinator.store.Builds)
    (hrun : (coordinator.watched.use use).runIn w = (answer, w')) :
    Turn coordinator closed use w.state answer w'.state := by
  cases use with
  | ensure asked allowMissing =>
    cases closed with
    | true =>
      rcases (Coordinator.ensure_leads_closed (Q := fun _ _ => False) coordinator asked allowMissing).of_run h hrun with
        ⟨_, -, hfalse⟩ | ⟨failure, rfl, hrefused, hafter⟩
      · exact hfalse.elim
      · exact .of_same h hafter rfl (.empty hafter) fun _ _ => ⟨failure, rfl, hrefused⟩
    | false =>
      have hafter : Sits none none false {} w'.state ∨ coordinator.Opened asked w'.state := by
        rcases (Coordinator.ensure_leads_fresh coordinator hbuilds asked allowMissing).of_run h hrun with
          ⟨_, -, hafter⟩ | ⟨_, -, hafter⟩
        · exact hafter
        · exact hafter
      rcases hafter with hafter | ⟨config, made, now, hconfig, hcloses, hafter⟩
      · exact .of_same h hafter rfl (.empty hafter) nofun
      · refine ⟨.serving hconfig hcloses hafter, nofun, fun _ => .inr ?_, fun hsome => ?_⟩
        · exact ⟨asked, allowMissing, config, made, now, rfl, hconfig, congrArg Ledger.created hafter.ledger,
            hafter.provider⟩
        · exact (hsome (congrArg Ledger.created h.ledger)).elim
  | write records checkpoint marker operation =>
    rcases (Coordinator.write_leads_refused (Q := fun _ _ => False) coordinator records checkpoint marker
        operation).of_run h hrun with ⟨_, -, hfalse⟩ | ⟨failure, rfl, hrefused, hafter⟩
    · exact hfalse.elim
    · exact .of_same h hafter rfl (.empty (by simpa [Use.isClose] using hafter)) fun _ _ => ⟨failure, rfl, hrefused⟩
  | close =>
    rcases (Coordinator.close_leads_none (E := fun _ _ => False) coordinator).of_run h hrun with
      ⟨_, -, hafter⟩ | ⟨_, -, hfalse⟩
    · exact .of_same h hafter rfl (.empty (by simpa [Use.isClose] using hafter)) nofun
    · exact hfalse.elim

theorem Turn.of_serving {provider : Option SchemaProvider} {config : WriteConfig} {client : WriteClient ρ}
    {now : Timestamp} (hconfig : coordinator.config.writeConfig provider now = .ok config) (hcloses : client.Closes)
    (h : Sits (some client.watched) provider false ⟨[(config, client)], [client], []⟩ w.state)
    (hrun : (coordinator.watched.use use).runIn w = (answer, w')) :
    Turn coordinator false use w.state answer w'.state := by
  cases use with
  | ensure asked allowMissing =>
    rcases (Coordinator.ensure_leads_kept (E := fun _ _ => False) coordinator asked allowMissing).of_run h hrun with
      ⟨_, -, hafter⟩ | ⟨_, -, hfalse⟩
    · exact .of_same h hafter rfl (.serving hconfig hcloses hafter) nofun
    · exact hfalse.elim
  | write records checkpoint marker operation =>
    rcases (Coordinator.write_leads_kept coordinator records checkpoint marker operation).of_run h hrun with
      ⟨_, -, hafter⟩ | ⟨_, -, hafter⟩
    · exact .of_same h hafter rfl (.serving hconfig hcloses hafter) nofun
    · exact .of_same h hafter rfl (.serving hconfig hcloses hafter) nofun
  | close =>
    rcases (Coordinator.close_leads_some (E := fun _ _ => False) coordinator hcloses).of_run h hrun with
      ⟨_, -, hafter⟩ | ⟨_, -, hfalse⟩
    · exact .of_same h hafter rfl (.ended hconfig hafter) nofun
    · exact hfalse.elim

theorem Turn.of_ended {provider : Option SchemaProvider} {config : WriteConfig} {client : WriteClient ρ}
    {now : Timestamp} (hconfig : coordinator.config.writeConfig provider now = .ok config)
    (h : Sits none provider true ⟨[(config, client)], [client], [client]⟩ w.state)
    (hrun : (coordinator.watched.use use).runIn w = (answer, w')) :
    Turn coordinator true use w.state answer w'.state := by
  cases use with
  | ensure asked allowMissing =>
    rcases (Coordinator.ensure_leads_closed (Q := fun _ _ => False) coordinator asked allowMissing).of_run h hrun with
      ⟨_, -, hfalse⟩ | ⟨failure, rfl, hrefused, hafter⟩
    · exact hfalse.elim
    · exact .of_same h hafter rfl (.ended hconfig hafter) fun _ _ => ⟨failure, rfl, hrefused⟩
  | write records checkpoint marker operation =>
    rcases (Coordinator.write_leads_refused (Q := fun _ _ => False) coordinator records checkpoint marker
        operation).of_run h hrun with ⟨_, -, hfalse⟩ | ⟨failure, rfl, hrefused, hafter⟩
    · exact hfalse.elim
    · exact .of_same h hafter rfl (.ended hconfig hafter) fun _ _ => ⟨failure, rfl, hrefused⟩
  | close =>
    rcases (Coordinator.close_leads_none (E := fun _ _ => False) coordinator).of_run h hrun with
      ⟨_, -, hafter⟩ | ⟨_, -, hfalse⟩
    · exact .of_same h hafter rfl (.ended hconfig hafter) nofun
    · exact hfalse.elim

theorem Alive.turn (h : Alive coordinator closed w.state) (hbuilds : coordinator.store.Builds)
    (hrun : (coordinator.watched.use use).runIn w = (answer, w')) :
    Turn coordinator closed use w.state answer w'.state := by
  cases h with
  | empty h => exact .of_empty h hbuilds hrun
  | serving hconfig hcloses h => exact .of_serving hconfig hcloses h hrun
  | ended hconfig h => exact .of_ended hconfig h hrun

end Turns

/-- What is outside has changed by itself. -/
def CommitState.elsewhere (state : CommitState (Watched ρ)) (inner : ρ) : CommitState (Watched ρ) :=
  { state with outside := { state.outside with inner } }

/-- The life of a coordinator: any sequence of uses, with the answers, and anything outside in between. Every use
starts in a world with any clock and any log. -/
inductive Life (coordinator : Coordinator ρ) : List (Use × Except Failure Unit) → CommitState (Watched ρ) → Prop where
  | fresh (inner : ρ) : Life coordinator [] { outside := ⟨inner, []⟩ }
  | more {uses : List (Use × Except Failure Unit)} {state : CommitState (Watched ρ)} {inner : ρ} {use : Use}
      {answer : Except Failure Unit} {w w' : World (CommitState (Watched ρ))} : Life coordinator uses state →
      w.state = state.elsewhere inner → (coordinator.watched.use use).runIn w = (answer, w') →
      Life coordinator (uses ++ [(use, answer)]) w'.state

variable {coordinator : Coordinator ρ} {closed : Bool} {uses : List (Use × Except Failure Unit)}
variable {state : CommitState (Watched ρ)}

theorem Sits.elsewhere {client : Option (WriteClient (Watched ρ))} {provider : Option SchemaProvider}
    {ledger : Ledger ρ} (h : Sits client provider closed ledger state) (inner : ρ) :
    Sits client provider closed ledger (state.elsewhere inner) :=
  ⟨h.client, h.provider, h.closed, h.ledger⟩

theorem Alive.elsewhere (h : Alive coordinator closed state) (inner : ρ) :
    Alive coordinator closed (state.elsewhere inner) := by
  cases h with
  | empty h => exact .empty (h.elsewhere inner)
  | serving hconfig hcloses h => exact .serving hconfig hcloses (h.elsewhere inner)
  | ended hconfig h => exact .ended hconfig (h.elsewhere inner)

/-- A coordinator was closed during its life. -/
def WasClosed (uses : List (Use × Except Failure Unit)) : Bool := uses.any fun entry => entry.1.isClose

theorem Life.alive (h : Life coordinator uses state) (hbuilds : coordinator.store.Builds) :
    Alive coordinator (WasClosed uses) state := by
  induction h with
  | fresh inner => exact .empty ⟨rfl, rfl, rfl, rfl⟩
  | @more uses state inner use answer w w' _ hw hrun ih =>
    have hbefore : Alive coordinator (WasClosed uses) w.state := hw ▸ ih.elsewhere inner
    have hafter := (hbefore.turn hbuilds hrun).alive
    simpa [WasClosed] using hafter

theorem Alive.ledger (h : Alive coordinator closed state) :
    state.ledger.created.length ≤ 1 ∧
      (∀ entry ∈ state.ledger.created, ∃ provider now, coordinator.config.writeConfig provider now = .ok entry.1) ∧
      state.ledger.announced = state.ledger.created.map Prod.snd ∧
      state.ledger.closed = if closed then state.ledger.created.map Prod.snd else [] := by
  cases h with
  | empty h =>
    have hledger : state.ledger = {} := h.ledger
    rw [hledger]
    refine ⟨Nat.zero_le 1, fun entry hentry => (List.not_mem_nil hentry).elim, rfl, ?_⟩
    cases closed <;> rfl
  | serving hconfig hcloses h =>
    rw [CommitState.ledger, h.ledger]
    refine ⟨Nat.le_refl 1, fun entry hentry => ?_, rfl, rfl⟩
    cases List.mem_singleton.mp hentry
    exact ⟨_, _, hconfig⟩
  | ended hconfig h =>
    rw [CommitState.ledger, h.ledger]
    refine ⟨Nat.le_refl 1, fun entry hentry => ?_, rfl, rfl⟩
    cases List.mem_singleton.mp hentry
    exact ⟨_, _, hconfig⟩

/-- **One write client for the life of a coordinator.** However it is used, a coordinator whose store makes clients
that close makes one at most. Its configuration keeps what the commit protocol relies on, it is announced exactly
once, and it is closed exactly once, by the first closing. The use that makes it is one that asks for it, and fixes
the schema; no later use makes another client or changes the schema, and after closing, asking for the client and
writing are refused. -/
theorem Life.one_client (h : Life coordinator uses state) (hbuilds : coordinator.store.Builds) :
    state.ledger.created.length ≤ 1 ∧
      (∀ entry ∈ state.ledger.created, entry.1.autoCommit = false ∧ entry.1.combineBeforeUpsert = true ∧
        entry.1.combineBeforeInsert = coordinator.config.filterDupes ∧
        entry.1.inlineCompaction = coordinator.config.inlineCompaction) ∧
      state.ledger.announced = state.ledger.created.map Prod.snd ∧
      (state.ledger.closed = if WasClosed uses then state.ledger.created.map Prod.snd else []) ∧
      ∀ inner use answer (w w' : World (CommitState (Watched ρ))), w.state = state.elsewhere inner →
        (coordinator.watched.use use).runIn w = (answer, w') →
          (WasClosed uses = true → use.isClose = false → ∃ failure, answer = .error failure ∧ WriteRefused failure) ∧
          (state.ledger.created = [] → w'.state.ledger.created = [] ∨
            ∃ provider allowMissing config client now, use = .ensure provider allowMissing ∧
              coordinator.config.writeConfig provider now = .ok config ∧
              w'.state.ledger.created = [(config, client)] ∧ w'.state.provider = provider) ∧
          (state.ledger.created ≠ [] → w'.state.ledger.created = state.ledger.created ∧
            w'.state.provider = state.provider) := by
  have halive := h.alive hbuilds
  obtain ⟨hone, hbuilt, hannounced, hclosed⟩ := halive.ledger
  refine ⟨hone, fun entry hentry => ?_, hannounced, hclosed, fun inner use answer w w' hw hrun => ?_⟩
  · obtain ⟨provider, now, hconfig⟩ := hbuilt entry hentry
    exact SyncConfig.writeConfig_settings hconfig
  · have hbefore : Alive coordinator (WasClosed uses) w.state := hw ▸ halive.elsewhere inner
    have hledger : w.state.ledger = state.ledger := by
      rw [hw]
      rfl
    have hprovider : w.state.provider = state.provider := by
      rw [hw]
      rfl
    have hturn := hbefore.turn hbuilds hrun
    have hborn := hturn.born
    have hstays := hturn.stays
    rw [hledger] at hborn hstays
    rw [hprovider] at hstays
    exact ⟨hturn.refused, hborn, hstays⟩

/-- Use a coordinator again and again. -/
def Coordinator.live (coordinator : Coordinator ρ) (state : CommitState (Watched ρ)) :
    List Use → List (Use × Except Failure Unit) × CommitState (Watched ρ)
  | [] => ([], state)
  | use :: rest =>
    let (answer, w') := (coordinator.watched.use use).runIn { now := ⟨0⟩, state }
    let (uses, last) := coordinator.live w'.state rest
    ((use, answer) :: uses, last)

theorem Life.live (h : Life coordinator uses state) (more : List Use) :
    Life coordinator (uses ++ (coordinator.live state more).1) (coordinator.live state more).2 := by
  induction more generalizing uses state with
  | nil =>
    rw [Coordinator.live, List.append_nil]
    exact h
  | cons use rest ih =>
    let w : World (CommitState (Watched ρ)) := { now := ⟨0⟩, state }
    have hrun : (coordinator.watched.use use).runIn w =
        (((coordinator.watched.use use).runIn w).1, ((coordinator.watched.use use).runIn w).2) := rfl
    have hrest := ih (@Life.more _ _ _ _ state.outside.inner _ _ w _ h rfl hrun)
    rw [List.append_assoc] at hrest
    exact hrest

/-- Asking without a schema, writing too early, asking twice, writing, and closing twice. -/
def sampleUses : List Use :=
  [.ensure none false, .write [] "1" none none, .ensure none true, .ensure none false, .write [] "1" none none, .close,
   .close, .write [] "1" none none]

theorem stubbornStore_builds : stubbornStore.Builds :=
  fun _ w _ => .inl ⟨_, w, rfl, fun v _ => .inl ⟨(), v, rfl, trivial⟩⟩

/-- The client of the sample is made, announced and closed once, and cannot be had afterwards. -/
theorem sample_one_client :
    let lived := stubbornCoordinator.live { outside := ⟨0, []⟩ } sampleUses
    Life stubbornCoordinator lived.1 lived.2 ∧ stubbornCoordinator.store.Builds ∧
      lived.2.ledger.created.length = 1 ∧ lived.2.ledger.announced = lived.2.ledger.created.map Prod.snd ∧
      lived.2.ledger.closed = lived.2.ledger.created.map Prod.snd ∧
      (∀ entry ∈ lived.2.ledger.created, entry.1.autoCommit = false ∧ entry.1.combineBeforeUpsert = true) ∧
      ∀ provider allowMissing answer (w w' : World (CommitState (Watched Nat))), w.state = lived.2 →
        (stubbornCoordinator.watched.use (.ensure provider allowMissing)).runIn w = (answer, w') →
          ∃ failure, answer = .error failure ∧ WriteRefused failure := by
  intro lived
  have hlife : Life stubbornCoordinator lived.1 lived.2 := (Life.fresh 0).live sampleUses
  have hlength : lived.2.ledger.created.length = 1 := by decide +kernel
  have hclosed : WasClosed lived.1 = true := by decide +kernel
  obtain ⟨-, hsettings, hannounced, hclosings, hnext⟩ := Life.one_client hlife stubbornStore_builds
  rw [if_pos hclosed] at hclosings
  refine ⟨hlife, stubbornStore_builds, hlength, hannounced, hclosings, fun entry hentry => ?_, ?_⟩
  · exact ⟨(hsettings entry hentry).1, (hsettings entry hentry).2.1⟩
  · intro provider allowMissing answer w w' hw hrun
    exact (hnext lived.2.outside.inner _ answer w w' hw hrun).1 hclosed rfl

end TableSync
