/-
  TableSync/Proofs/Commit/Watch.lean
  ==================================
  **A coordinator under observation** — every call of it on record.

  `Coordinator.watched` is a coordinator whose store, write client and callback
  do what they did before, and put each call on record together with its answer.
  Nothing is assumed of what is watched: a call may do anything to its state, may
  answer anything and may fail in any way.  A statement about the record is a
  statement about the order in which the coordinator calls, and about what it
  makes of the answers.

  A watched client that reaches the callback is recognised by what is under the
  observation (`WriteClient.unwatched_watched`).
-/
import TableSync.Commit.Coordinator
import TableSync.Proofs.Effect

namespace TableSync

/-! ## 1. Calls -/

/-- A call of a coordinator, with its answer. -/
inductive Call (ρ : Type) where
  | created (config : WriteConfig) (answer : Except Failure (WriteClient ρ))
  | announced (client : WriteClient ρ) (answer : Except Failure Unit)
  | startCommit (answer : Except Failure String)
  | write (operation : WriteOperation) (records : List PreparedRecord) (time : String)
      (answer : Except Failure WriteOutcome)
  | commit (time : String) (outcome : WriteOutcome) (extra : Fields String) (answer : Except Failure Bool)
  | rollback (time : String) (answer : Except Failure Bool)
  | scheduleCompaction (answer : Except Failure (Option String))
  | closed (client : WriteClient ρ) (answer : Except Failure Unit)

/-- What is watched, and the calls so far. -/
structure Watched (ρ : Type) where
  inner : ρ
  calls : List (Call ρ) := []

namespace Watched

variable {ρ α : Type}

/-- A step that nobody watches. -/
def lift (step : Effect ρ α) : Effect (Watched ρ) α :=
  Effect.within (fun watched => watched.inner) (fun inner watched => { watched with inner }) step

/-- Put a call on record. -/
def note (call : Call ρ) : Effect (Watched ρ) Unit := do
  let watched ← Effect.state
  Effect.setState { watched with calls := watched.calls ++ [call] }

/-- A step that goes on record with its answer. -/
def watch (form : Except Failure α → Call ρ) (step : Effect ρ α) : Effect (Watched ρ) α := do
  let answer ← (lift step).attempt
  note (form answer)
  Effect.ofExcept answer

/-- What a step does to what is watched, the record apart. -/
def unwatch (step : Effect (Watched ρ) α) : Effect ρ α :=
  Effect.within (fun inner => ⟨inner, []⟩) (fun watched _ => watched.inner) step

/-- A step under observation does what it does to what is watched, and is put on record. -/
theorem watch_runIn {form : Except Failure α → Call ρ} {step : Effect ρ α} {w : World (Watched ρ)} {v : World ρ}
    {answer : Except Failure α} (hrun : step.runIn { w with state := w.state.inner } = (answer, v)) :
    (watch form step).runIn w = (answer, { v with state := ⟨v.state, w.state.calls ++ [form answer]⟩ }) := by
  have hlift : (lift step).runIn w = (answer, { v with state := ⟨v.state, w.state.calls⟩ }) :=
    Effect.runIn_within hrun
  have hnote : ∀ v : World (Watched ρ), (note (form answer)).runIn v =
      (.ok (), { v with state := { v.state with calls := v.state.calls ++ [form answer] } }) := fun _ => rfl
  rw [watch, Effect.runIn_bind_ok (Effect.runIn_attempt hlift), Effect.runIn_bind_ok (hnote _)]
  rfl

/-- Watching a step changes nothing of what it does. -/
theorem unwatch_watch (form : Except Failure α → Call ρ) (step : Effect ρ α) : unwatch (watch form step) = step := by
  funext w
  show (unwatch (watch form step)).runIn w = step.runIn w
  rcases hrun : step.runIn w with ⟨answer, w'⟩
  have hwatch : (watch form step).runIn { w with state := ⟨w.state, []⟩ } =
      (answer, { w' with state := ⟨w'.state, [form answer]⟩ }) := watch_runIn hrun
  exact @Effect.runIn_within ρ (Watched ρ) α (⟨·, []⟩) (fun watched _ => watched.inner) _ w _ _ hwatch

end Watched

/-! ## 2. What is watched -/

section Watching

variable {ρ : Type}

/-- A client under observation. -/
def WriteClient.watched (client : WriteClient ρ) : WriteClient (Watched ρ) where
  config := client.config
  startCommit := Watched.watch .startCommit client.startCommit
  write operation records time :=
    Watched.watch (.write operation records time) (client.write operation records time)
  commit time outcome extra := Watched.watch (.commit time outcome extra) (client.commit time outcome extra)
  rollback time := Watched.watch (.rollback time) (client.rollback time)
  scheduleCompaction := Watched.watch .scheduleCompaction client.scheduleCompaction
  close := Watched.watch (.closed client) client.close

/-- What a client does to what is watched. -/
def WriteClient.unwatched (client : WriteClient (Watched ρ)) : WriteClient ρ where
  config := client.config
  startCommit := Watched.unwatch client.startCommit
  write operation records time := Watched.unwatch (client.write operation records time)
  commit time outcome extra := Watched.unwatch (client.commit time outcome extra)
  rollback time := Watched.unwatch (client.rollback time)
  scheduleCompaction := Watched.unwatch client.scheduleCompaction
  close := Watched.unwatch client.close

/-- The client that is under observation can be told. -/
@[simp] theorem WriteClient.unwatched_watched (client : WriteClient ρ) : client.watched.unwatched = client := by
  simp [WriteClient.watched, WriteClient.unwatched, Watched.unwatch_watch]

/-- A store that puts the clients it makes on record, and hands them out under observation. -/
def TableStore.watched (store : TableStore ρ) : TableStore (Watched ρ) where
  metadataExists basePath := Watched.lift (store.metadataExists basePath)
  openMetadata basePath := Watched.lift (store.openMetadata basePath)
  initTable shell := Watched.lift (store.initTable shell)
  describeTable basePath := Watched.lift (store.describeTable basePath)
  createWriteClient config := do
    return (← Watched.watch (.created config) (store.createWriteClient config)).watched

/-- A catalog beside what is watched. -/
def CatalogTrigger.lifted (trigger : CatalogTrigger ρ) : CatalogTrigger (Watched ρ) where
  tool description := Watched.lift (trigger.tool description)
  describe basePath := Watched.lift (trigger.describe basePath)
  basePath := trigger.basePath
  enabled := trigger.enabled

/-- A coordinator under observation. -/
def Coordinator.watched (coordinator : Coordinator ρ) : Coordinator (Watched ρ) where
  config := coordinator.config
  store := coordinator.store.watched
  catalog := coordinator.catalog.map CatalogTrigger.lifted
  retry := coordinator.retry
  onClientCreated client :=
    Watched.watch (.announced client.unwatched) (coordinator.onClientCreated client.unwatched)
  errorLogLimit := coordinator.errorLogLimit

end Watching

/-! ## 3. The record -/

namespace Watched

variable {ρ α : Type} {calls : List (Call ρ)}

/-- The calls on record. -/
def Recorded (calls : List (Call ρ)) (watched : Watched ρ) : Prop := watched.calls = calls

theorem lift_leads {step : Effect ρ α} {Q : α → Prop} {E : Failure → Prop}
    (h : Effect.Leads (fun _ => True) step (fun a _ => Q a) fun failure _ => E failure) :
    Effect.Leads (Recorded calls) (lift step) (fun a watched => Q a ∧ Recorded calls watched)
      (fun failure watched => E failure ∧ Recorded calls watched) :=
  Effect.Leads.within fun _ hs => h.weaken (fun _ _ => trivial) (fun _ _ hQ => ⟨hQ, hs⟩) fun _ _ hE => ⟨hE, hs⟩

theorem watch_leads {step : Effect ρ α} {form : Except Failure α → Call ρ} {Q : α → Prop} {E : Failure → Prop}
    (h : Effect.Leads (fun _ => True) step (fun a _ => Q a) fun failure _ => E failure) :
    Effect.Leads (Recorded calls) (watch form step)
      (fun a watched => Q a ∧ Recorded (calls ++ [form (.ok a)]) watched)
      (fun failure watched => E failure ∧ Recorded (calls ++ [form (.error failure)]) watched) := by
  have hnote : ∀ call {E' : Failure → Watched ρ → Prop},
      Effect.Leads (Recorded calls) (note call) (fun _ => Recorded (calls ++ [call])) E' := by
    intro call E' w hw
    exact .inl ⟨(), _, rfl, congrArg (· ++ [call]) hw⟩
  refine (lift_leads h).attempt.bind ?_
  rintro (failure | a)
  · refine Effect.leads_of_fact fun hE => (hnote _).bind fun _ => ?_
    exact (Effect.leads_ofExcept _).weaken (fun _ hs => hs) (fun _ _ hs => nomatch hs.1)
      fun _ _ ⟨hfailure, hs⟩ => by cases hfailure; exact ⟨hE, hs⟩
  · refine Effect.leads_of_fact fun hQ => (hnote _).bind fun _ => ?_
    exact (Effect.leads_ofExcept _).weaken (fun _ hs => hs)
      (fun _ _ ⟨ha, hs⟩ => by cases ha; exact ⟨hQ, hs⟩) fun _ _ hs => nomatch hs.1

/-- Whatever a step under observation does, one call is added to the record. -/
theorem called_leads (step : Effect ρ α) (form : Except Failure α → Call ρ) :
    Effect.Leads (Recorded calls) (watch form step) (fun a => Recorded (calls ++ [form (.ok a)]))
      (fun failure => Recorded (calls ++ [form (.error failure)])) :=
  (watch_leads Effect.leads_trivial).weaken (fun _ hs => hs) (fun _ _ hs => hs.2) fun _ _ hs => hs.2

theorem sync_leads (trigger : CatalogTrigger ρ) {E : Failure → Watched ρ → Prop} :
    Effect.Leads (Recorded calls) trigger.lifted.sync (fun _ => Recorded calls) E := by
  have hunwatched : ∀ {β : Type} (step : Effect ρ β),
      Effect.Leads (Recorded calls) (lift step) (fun _ => Recorded calls) fun _ => Recorded calls := fun step =>
    (lift_leads Effect.leads_trivial).weaken (fun _ hs => hs) (fun _ _ hs => hs.2) fun _ _ hs => hs.2
  have hpublish : Effect.Leads (Recorded calls) trigger.lifted.publish (fun _ => Recorded calls)
      fun _ => Recorded calls :=
    (hunwatched _).bind fun description => (Effect.leads_log _ _ _).bind fun _ => hunwatched _
  unfold CatalogTrigger.sync
  split
  · refine hpublish.attempt.bind ?_
    rintro (failure | _)
    · exact Effect.leads_now.bind fun now => (Effect.leads_logWith _ _ _ _).bind fun _ =>
        Effect.leads_pure fun _ hs => hs
    · exact Effect.leads_pure fun _ hs => hs
  · exact Effect.leads_pure fun _ hs => hs

end Watched

/-! ## 4. The coordinator around it -/

namespace Coordinator

variable {ρ α : Type} {base : CommitState (Watched ρ)} {phase : CommitPhase} {P : Watched ρ → Prop}
variable {E : Failure → CommitState (Watched ρ) → Prop}

/-- A coordinator is as in `base` but for its phase, and `P` holds of what is watched. -/
def Stands (base : CommitState (Watched ρ)) (phase : CommitPhase) (P : Watched ρ → Prop)
    (state : CommitState (Watched ρ)) : Prop :=
  state = { base with outside := state.outside, phase } ∧ P state.outside

theorem outside_leads {step : Effect (Watched ρ) α} {Q : α → Watched ρ → Prop} {F : Failure → Watched ρ → Prop}
    (h : Effect.Leads P step Q F) :
    Effect.Leads (Stands base phase P) (outside step) (fun a => Stands base phase (Q a))
      (fun failure => Stands base phase (F failure)) := by
  refine Effect.Leads.within fun state hs => h.weaken (fun _ hw => hw ▸ hs.2) ?_ ?_
  · intro a watched hQ
    exact ⟨by rw [hs.1], hQ⟩
  · intro failure watched hF
    exact ⟨by rw [hs.1], hF⟩

theorem enter_leads (next : CommitPhase) :
    Effect.Leads (Stands base phase P) (enter next) (fun _ => Stands base next P) E := by
  intro w hw
  refine .inl ⟨(), { w with state := { w.state with phase := next } }, rfl, ?_, hw.2⟩
  rw [hw.1]

theorem requireClient_leads (coordinator : Coordinator (Watched ρ)) {client : WriteClient (Watched ρ)}
    (hclient : base.client = some client) :
    Effect.Leads (Stands base phase P) coordinator.requireClient
      (fun found state => found = client ∧ Stands base phase P state) E := by
  refine Effect.Leads.ofState fun state hs => ?_
  have hfound : state.client = some client := by rw [hs.1, ← hclient]
  rw [hfound]
  apply Effect.leads_pure
  rintro _ rfl
  exact ⟨rfl, hs⟩

theorem withClient_leads {coordinator : Coordinator (Watched ρ)} {client : WriteClient (Watched ρ)}
    (hclient : base.client = some client) {f : WriteClient (Watched ρ) → Effect (CommitState (Watched ρ)) α}
    {Q : α → CommitState (Watched ρ) → Prop} (h : Effect.Leads (Stands base phase P) (f client) Q E) :
    Effect.Leads (Stands base phase P) (coordinator.requireClient >>= f) Q E := by
  refine (requireClient_leads coordinator hclient).bind fun found => Effect.leads_of_fact ?_
  rintro rfl
  exact h

end Coordinator

end TableSync
