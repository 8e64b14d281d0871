/-
  TableSync/Proofs/Store/History.lean
  ===================================
  **Histories** — operations of any number of clients, one after another.

  A `Run` is what a warehouse goes through while operations are performed on it,
  in any order, by any of its clients and at any moment: nothing relates the
  clock of one operation to that of another.  Each operation leaves an `Event`,
  which holds what its caller knows of it and the rows that it staged.  A
  `History` is a run from the empty warehouse.

  `perform_change` says that an operation changes the store by what its answer
  tells, and `History.induct` is the one induction over histories: what holds of
  the empty store and is kept by every change holds at the end of every history.
-/
import TableSync.Proofs.Store.Change
import TableSync.Proofs.Store.Warehouse

namespace TableSync.Warehouse

/-! ## 1. Events -/

/-- The client that an operation goes through. -/
def Operation.client? : Operation → Option ClientId
  | .startCommit client => some client
  | .write client _ _ _ => some client
  | .commit client _ _ _ => some client
  | .rollback client _ => some client
  | .scheduleCompaction client => some client
  | .close client => some client
  | _ => none

/-- An operation that was performed: the configuration of its client, the moment, the answer, and the rows
that it staged. -/
structure Event where
  operation : Operation
  config : Option WriteConfig
  now : Timestamp
  reply : Except Failure Reply
  rows : List StagedRow

/-- The event of an operation between two worlds. What is staged is added at the end. -/
def Event.of (operation : Operation) (w : World Warehouse) (reply : Except Failure Reply) (w' : World Warehouse) :
    Event where
  operation := operation
  config := operation.client?.bind fun client => w.state.clients[client]?.map (·.config)
  now := w.now
  reply := reply
  rows := w'.state.store.staged.drop w.state.store.staged.length

/-- What an operation did, as its answer tells. -/
def Event.deed (event : Event) : Deed :=
  match event.operation, event.config, event.reply with
  | .startCommit _, some config, .ok (.instant time) => .created config.basePath time
  | .scheduleCompaction _, some config, .ok (.compaction (some time)) => .created config.basePath time
  | .write .., _, .ok (.outcome _) => .staged event.rows
  | .commit _ (some time) outcome extra, some config, .ok (.truth true) =>
    .committed ⟨config.basePath, time, event.now, outcome, extra⟩
  | _, _, _ => .nothing

theorem Event.of_config {operation : Operation} {w w' : World Warehouse} {reply : Except Failure Reply}
    {id : ClientId} {known : ClientRecord} (hclient : operation.client? = some id)
    (hknown : w.state.clients[id]? = some known) : (Event.of operation w reply w').config = some known.config := by
  rw [Event.of, hclient, Option.bind_some, hknown]
  rfl

theorem Event.deed_of_error {event : Event} {failure : Failure} (h : event.reply = .error failure) :
    event.deed = .nothing := by
  unfold deed
  rw [h]
  split <;> simp_all

theorem Event.deed_of_refused {event : Event} (h : event.reply = .ok (.truth false)) : event.deed = .nothing := by
  unfold deed
  rw [h]
  split <;> simp_all

/-! ## 2. One operation -/

section Operation

variable {α : Type} {w w' : World Warehouse} {id : ClientId}

/-- Run in a world, a step fails and leaves the store as it is, or succeeds with a value and a store of which `Q`
holds. -/
def Yields (w : World Warehouse) (step : Effect Warehouse α) (Q : α → Store → Prop) : Prop :=
  ∀ outcome w', step.runIn w = (outcome, w') →
    (∃ failure, outcome = .error failure ∧ w'.state.store = w.state.store) ∨ ∃ a, outcome = .ok a ∧ Q a w'.state.store

theorem Yields.of_leads {step : Effect Warehouse α} {Q : α → Store → Prop}
    (h : Effect.Leads (Holds w.state.clients fun s => s = w.state.store) step
      (fun a => Holds w.state.clients (Q a)) (fun _ => Holds w.state.clients fun s => s = w.state.store)) :
    Yields w step Q := by
  intro outcome w' hrun
  cases outcome with
  | ok a => exact .inr ⟨a, rfl, (h.of_ok ⟨rfl, rfl⟩ hrun).2⟩
  | error failure => exact .inl ⟨failure, rfl, (h.of_error ⟨rfl, rfl⟩ hrun).2⟩

theorem initTable_yields (shell : TableShell) :
    Yields w (initTable shell) fun _ after => w.state.store.initTable shell = .ok after :=
  .of_leads (initTable_leads (fun _ _ hs hinit => hs ▸ hinit) fun _ hs => hs)

theorem startCommit_yields : Yields w (startCommit id) fun time after => ∃ known now,
    w.state.clients[id]? = some known ∧ w.state.store.startCommit known.config now = .ok (time, after) :=
  .of_leads (startCommit_leads (fun _ hs => hs)
    fun known _ now _ _ hknown _ hs hstart => ⟨known, now, hknown, hs ▸ hstart⟩)

theorem scheduleCompaction_yields : Yields w (scheduleCompaction id) fun asked after => ∃ known now,
    w.state.clients[id]? = some known ∧ w.state.store.scheduleCompaction known.config now = .ok (asked, after) :=
  .of_leads (scheduleCompaction_leads (fun _ hs => hs)
    fun known _ now _ _ hknown _ hs hschedule => ⟨known, now, hknown, hs ▸ hschedule⟩)

theorem write_yields (operation : WriteOperation) (records : List PreparedRecord) (time : Option String) :
    Yields w (write id operation records time) fun counts after => ∃ known batch now,
      w.state.clients[id]? = some known ∧ Batched known.config operation records batch ∧
        w.state.store.stage known.config operation batch time now = .ok (counts, after) :=
  .of_leads (write_leads (fun _ hs => hs)
    fun known _ batch now _ _ hknown _ hbatch hs hstage => ⟨known, batch, now, hknown, hbatch, hs ▸ hstage⟩)

theorem rollback_yields (time : Option String) : Yields w (rollback id time) fun _ after => ∃ known now,
    w.state.clients[id]? = some known ∧ after = (w.state.store.rollback known.config time now).2 :=
  .of_leads (rollback_leads (fun _ _ hs => hs) fun known _ now hknown _ hs => ⟨known, now, hknown, hs ▸ rfl⟩)

theorem openClient_eq {outcome : Except Failure WriteConfig} (hrun : (openClient id).runIn w = (outcome, w')) :
    w' = w ∧ ∀ config, outcome = .ok config → ∃ known, w.state.clients[id]? = some known ∧ known.config = config := by
  have hstate : (Effect.state : Effect Warehouse Warehouse).runIn w = (.ok w.state, w) := rfl
  unfold openClient at hrun
  rw [Effect.runIn_bind_ok hstate] at hrun
  split at hrun
  next =>
    cases hrun
    exact ⟨rfl, nofun⟩
  next known hknown =>
    split at hrun
    · cases hrun
      exact ⟨rfl, nofun⟩
    · cases hrun
      refine ⟨rfl, ?_⟩
      rintro _ ⟨⟩
      exact ⟨known, hknown, rfl⟩

/-- The rules leave out the clock, but a commit records it, so its run is followed here. -/
theorem commit_yields (time : Option String) (counts : WriteOutcome) (extra : Fields String) :
    Yields w (commit id time counts extra) fun done after => match done with
      | false => after = w.state.store
      | true => ∃ known, w.state.clients[id]? = some known ∧
        w.state.store.commit known.config time counts extra w.now = .ok after := by
  intro outcome w' hrun
  rcases Effect.runIn_bind_cases hrun with ⟨failure, hfailed, rfl⟩ | ⟨config, v, hopen, hrest⟩
  · obtain ⟨rfl, -⟩ := openClient_eq hfailed
    exact .inl ⟨failure, rfl, rfl⟩
  obtain ⟨rfl, hclient⟩ := openClient_eq hopen
  obtain ⟨known, hknown, rfl⟩ := hclient config rfl
  have hstored : stored.runIn v = (.ok v.state.store, v) := rfl
  have hnow : (Effect.now : Effect Warehouse Timestamp).runIn v = (.ok v.now, v) := rfl
  rw [Effect.runIn_bind_ok hstored, Effect.runIn_bind_ok hnow] at hrest
  split at hrest
  next changed hcommit =>
    cases hrest
    exact .inr ⟨true, rfl, known, hknown, hcommit⟩
  next =>
    cases hrest
    exact .inr ⟨false, rfl, rfl⟩
  next =>
    cases hrest
    exact .inr ⟨false, rfl, rfl⟩
  next =>
    cases hrest
    exact .inl ⟨_, rfl, rfl⟩

end Operation

/-- An operation of `perform` is a step whose answer is made a reply. -/
theorem answer_cases {α : Type} {step : Effect Warehouse α} {f : α → Reply} {w w' : World Warehouse}
    {reply : Except Failure Reply} (hrun : (do return f (← step) : Effect Warehouse Reply).runIn w = (reply, w')) :
    ∃ outcome, step.runIn w = (outcome, w') ∧ reply = outcome.map f := by
  rcases Effect.runIn_bind_cases hrun with ⟨failure, hstep, rfl⟩ | ⟨a, v, hstep, hdone⟩
  · exact ⟨_, hstep, rfl⟩
  · cases hdone
    exact ⟨_, hstep, rfl⟩

/-- Every operation changes the store by what its answer tells. -/
theorem perform_change {operation : Operation} {w w' : World Warehouse} {reply : Except Failure Reply}
    (hlawful : w.state.store.Lawful) (hrun : (perform operation).runIn w = (reply, w')) :
    w.state.store.Change (Event.of operation w reply w').deed w'.state.store := by
  -- Whatever fails, fails before the store is changed.
  have hfailed : ∀ failure, reply = .error failure → w'.state.store = w.state.store →
      w.state.store.Change (Event.of operation w reply w').deed w'.state.store := by
    rintro failure rfl hsame
    rw [Event.deed_of_error rfl, hsame]
    exact .unchanged
  cases operation with
  | initTable shell =>
    obtain ⟨outcome, hinit, rfl⟩ := answer_cases hrun
    rcases initTable_yields shell _ _ hinit with ⟨failure, rfl, hsame⟩ | ⟨_, rfl, hdone⟩
    · exact hfailed failure rfl hsame
    · exact .of_initTable hdone
  | metadataExists basePath =>
    cases hrun
    exact .unchanged
  | openMetadata basePath =>
    obtain ⟨outcome, hopen, rfl⟩ := answer_cases hrun
    cases hopen
    exact .unchanged
  | describeTable basePath =>
    obtain ⟨outcome, hdescribe, rfl⟩ := answer_cases hrun
    cases hdescribe
    exact .unchanged
  | newClient config =>
    cases hrun
    exact .unchanged
  | startCommit client =>
    obtain ⟨outcome, hstart, rfl⟩ := answer_cases hrun
    rcases startCommit_yields _ _ hstart with ⟨failure, rfl, hsame⟩ | ⟨time, rfl, known, now, hknown, hdone⟩
    · exact hfailed failure rfl hsame
    · rw [Event.deed, Event.of_config rfl hknown]
      exact .of_startCommit hlawful hdone
  | write client operation records time =>
    obtain ⟨outcome, hwrite, rfl⟩ := answer_cases hrun
    rcases write_yields _ _ _ _ _ hwrite with ⟨failure, rfl, hsame⟩ | ⟨counts, rfl, known, batch, now, -, -, hdone⟩
    · exact hfailed failure rfl hsame
    · exact .of_stage hdone
  | commit client time counts extra =>
    obtain ⟨outcome, hcommit, rfl⟩ := answer_cases hrun
    rcases commit_yields _ _ _ _ _ hcommit with ⟨failure, rfl, hsame⟩ | ⟨_ | _, rfl, hdone⟩
    · exact hfailed failure rfl hsame
    · rw [Event.deed_of_refused rfl, hdone]
      exact .unchanged
    · obtain ⟨known, hknown, hcommitted⟩ := hdone
      obtain ⟨instant, rfl, hchange⟩ := Store.Change.of_commit hcommitted
      rw [Event.deed, Event.of_config rfl hknown]
      exact hchange
  | rollback client time =>
    obtain ⟨outcome, hrollback, rfl⟩ := answer_cases hrun
    rcases rollback_yields _ _ _ hrollback with ⟨failure, rfl, hsame⟩ | ⟨done, rfl, known, now, -, hdone⟩
    · exact hfailed failure rfl hsame
    · rw [hdone]
      exact .of_rollback
  | scheduleCompaction client =>
    obtain ⟨outcome, hschedule, rfl⟩ := answer_cases hrun
    rcases scheduleCompaction_yields _ _ hschedule with ⟨failure, rfl, hsame⟩ | ⟨asked, rfl, known, now, hknown, hdone⟩
    · exact hfailed failure rfl hsame
    · have hchange := Store.Change.of_scheduleCompaction hlawful hdone
      rw [Event.deed, Event.of_config rfl hknown]
      cases asked with
      | none => exact hchange
      | some time => exact hchange
  | close client =>
    cases hrun
    exact .unchanged

/-! ## 3. Runs -/

/-- Operations performed one after another: what a warehouse goes through. Every operation starts from the
warehouse that the one before it left, in a world with any clock and any log. -/
inductive Run : Warehouse → List Event → Warehouse → Prop where
  | none (warehouse : Warehouse) : Run warehouse [] warehouse
  | more {start : Warehouse} {events : List Event} {w w' : World Warehouse} {operation : Operation}
      {reply : Except Failure Reply} : Run start events w.state → (perform operation).runIn w = (reply, w') →
      Run start (events ++ [Event.of operation w reply w']) w'.state

/-- A run from the empty warehouse. -/
abbrev History : List Event → Warehouse → Prop := Run {}

variable {start warehouse later : Warehouse} {events more : List Event}

theorem Run.lawful (h : Run start events warehouse) (hlawful : start.store.Lawful) : warehouse.store.Lawful := by
  induction h with
  | none => exact hlawful
  | @more _ w w' operation reply _ hrun ih =>
    have hstep := perform_leads operation w.state ih
    cases reply with
    | ok answer => exact (hstep.of_ok rfl hrun).1
    | error failure => exact (hstep.of_error rfl hrun).1

theorem History.lawful (h : History events warehouse) : warehouse.store.Lawful := Run.lawful h Store.lawful_empty

theorem Run.trans (h : Run start events warehouse) (hmore : Run warehouse more later) :
    Run start (events ++ more) later := by
  induction hmore with
  | none =>
    rw [List.append_nil]
    exact h
  | more _ hrun ih =>
    rw [← List.append_assoc]
    exact ih.more hrun

/-- What holds of a store and is kept by every change of a lawful one holds after a run. The statement may speak
of what was done. -/
theorem Run.induct {P : List Deed → Store → Prop} (h : Run start events warehouse) (hlawful : start.store.Lawful)
    (hstart : P [] start.store)
    (hchange : ∀ deeds deed (store after : Store), store.Lawful → P deeds store → store.Change deed after →
      P (deeds ++ [deed]) after) : P (events.map Event.deed) warehouse.store := by
  induction h with
  | none => exact hstart
  | more hbefore hrun ih =>
    have hnow := hbefore.lawful hlawful
    rw [List.map_append]
    exact hchange _ _ _ _ hnow ih (perform_change hnow hrun)

/-- Every event of a run is one of an operation that was performed after those before it. -/
theorem Run.performed (h : Run start events warehouse) {event : Event} (hevent : event ∈ events) :
    ∃ earlier later operation w reply w', events = earlier ++ event :: later ∧ Run start earlier w.state ∧
      (perform operation).runIn w = (reply, w') ∧ event = Event.of operation w reply w' := by
  induction h with
  | none => cases hevent
  | @more events w w' operation reply hbefore hrun ih =>
    rcases List.mem_append.mp hevent with hold | hlast
    · obtain ⟨earlier, later, other, v, answer, v', rfl, hfound⟩ := ih hold
      exact ⟨earlier, later ++ [Event.of operation w reply w'], other, v, answer, v', List.append_assoc .., hfound⟩
    · exact ⟨events, [], operation, w, reply, w', by rw [List.mem_singleton.mp hlast], hbefore, hrun,
        List.mem_singleton.mp hlast⟩

/-- A commit that was answered with yes is put down as one. -/
theorem Run.committed_of_yes (h : Run start events warehouse) {event : Event} (hevent : event ∈ events)
    {client : ClientId} {time : Option String} {outcome : WriteOutcome} {extra : Fields String}
    (hoperation : event.operation = .commit client time outcome extra) (hreply : event.reply = .ok (.truth true)) :
    ∃ config named, event.config = some config ∧ time = some named ∧
      event.deed = .committed ⟨config.basePath, named, event.now, outcome, extra⟩ := by
  obtain ⟨-, -, operation, w, reply, w', -, -, hrun, rfl⟩ := h.performed hevent
  obtain rfl : operation = .commit client time outcome extra := hoperation
  obtain rfl : reply = .ok (.truth true) := hreply
  obtain ⟨answer, hcommit, hanswer⟩ := answer_cases hrun
  rcases commit_yields _ _ _ _ _ hcommit with ⟨failure, rfl, -⟩ | ⟨_ | _, rfl, hdone⟩
  · cases hanswer
  · cases hanswer
  · obtain ⟨known, hknown, hcommitted⟩ := hdone
    obtain ⟨named, rfl, -⟩ := Store.Change.of_commit hcommitted
    have hconfig : (Event.of (.commit client (some named) outcome extra) w (.ok (.truth true)) w').config =
        some known.config := Event.of_config rfl hknown
    refine ⟨known.config, named, hconfig, rfl, ?_⟩
    rw [Event.deed, hconfig]
    rfl

theorem Event.yes_of_committed {event : Event} {entry : CommitEntry} (h : event.deed = .committed entry) :
    ∃ client config, event.operation = .commit client (some entry.time) entry.outcome entry.extra ∧
      event.reply = .ok (.truth true) ∧ event.config = some config ∧ config.basePath = entry.basePath ∧
      event.now = entry.now := by
  unfold deed at h
  split at h
  next => cases h
  next => cases h
  next => cases h
  next client time outcome extra config hoperation hconfig hreply =>
    cases h
    exact ⟨client, config, hoperation, hreply, hconfig, rfl, rfl⟩
  next => cases h

/-- A write that succeeded staged what it accepted of its records, as the store was then. -/
theorem Run.staged_of_outcome (h : Run start events warehouse) {event : Event} (hevent : event ∈ events)
    {client : ClientId} {operation : WriteOperation} {records : List PreparedRecord} {time : Option String}
    {counts : WriteOutcome} (hoperation : event.operation = .write client operation records time)
    (hreply : event.reply = .ok (.outcome counts)) :
    ∃ earlier later before config named batch, events = earlier ++ event :: later ∧ Run start earlier before ∧
      event.config = some config ∧ time = some named ∧ Batched config operation records batch ∧
      event.deed = .staged (before.store.stagedRows config operation batch named) := by
  obtain ⟨earlier, later, performed, w, reply, w', hsplit, hbefore, hrun, hevent⟩ := h.performed hevent
  subst hevent
  obtain rfl : performed = .write client operation records time := hoperation
  obtain rfl : reply = .ok (.outcome counts) := hreply
  obtain ⟨answer, hwrite, hanswer⟩ := answer_cases hrun
  rcases write_yields _ _ _ _ _ hwrite with ⟨failure, rfl, -⟩ | ⟨_, rfl, known, batch, now, hknown, hbatch, hdone⟩
  · cases hanswer
  · obtain ⟨instant, -, -, rfl, -, hafter⟩ := Store.stage_eq_ok hdone
    refine ⟨earlier, later, w.state, known.config, instant.time, batch, hsplit, hbefore, Event.of_config rfl hknown,
      rfl, hbatch, ?_⟩
    have hadded : w'.state.store.staged.drop w.state.store.staged.length =
        w.state.store.stagedRows known.config operation batch instant.time := by
      rw [hafter]
      exact List.drop_left
    exact congrArg Deed.staged hadded

/-! ## 4. Requests -/

/-- Perform a list of operations, each at the moment that stands with it. -/
def play (warehouse : Warehouse) : List (Timestamp × Operation) → List Event × Warehouse
  | [] => ([], warehouse)
  | (now, operation) :: rest =>
    let w : World Warehouse := { now, state := warehouse }
    let (reply, w') := (perform operation).runIn w
    let (events, last) := play w'.state rest
    (Event.of operation w reply w' :: events, last)

/-- Whatever is asked of a warehouse, in whatever order and at whatever moments, is a run. -/
theorem run_play (warehouse : Warehouse) (requests : List (Timestamp × Operation)) :
    Run warehouse (warehouse.play requests).1 (warehouse.play requests).2 := by
  induction requests generalizing warehouse with
  | nil => exact .none warehouse
  | cons request rest ih =>
    obtain ⟨now, operation⟩ := request
    let w : World Warehouse := { now, state := warehouse }
    have hrun : (perform operation).runIn w = (((perform operation).runIn w).1, ((perform operation).runIn w).2) := rfl
    exact ((Run.none w.state).more hrun).trans (ih _)

/-- The clock in the samples, in seconds from the beginning of 2025. -/
def sampleClock (seconds : Int) : Timestamp := ⟨63871286400000000 + seconds * 1000000⟩

def sampleRecord (key value : String) : PreparedRecord :=
  { key := ⟨key, ""⟩, payload := [("value", .text value)] }

/-- Two clients of one table. The clock of the second one is behind, and its upsert is committed first; a compaction
is asked for, one instant is rolled back, and one is left inflight. -/
def sampleRequests : List (Timestamp × Operation) :=
  let config : WriteConfig := { basePath := "/t/events", tableName := "events", tableType := .mergeOnRead }
  let first := some (sampleClock 10).instantTime
  let second := some (sampleClock 20).instantTime
  let third := some (sampleClock 35).instantTime
  let fourth := some (sampleClock 40).instantTime
  [(sampleClock 0, .initTable ⟨"/t/events", "events", .mergeOnRead, "", "archived", none⟩),
   (sampleClock 0, .newClient config),
   (sampleClock 0, .newClient config),
   (sampleClock 10, .startCommit 0),
   (sampleClock 5, .startCommit 1),
   (sampleClock 20, .startCommit 1),
   (sampleClock 21, .write 1 .upsert [sampleRecord "a" "new"] second),
   (sampleClock 22, .write 0 .insert [sampleRecord "b" "old"] first),
   (sampleClock 23, .write 0 .upsert [sampleRecord "a" "old"] first),
   (sampleClock 24, .commit 1 second ⟨[]⟩ [("checkpoint", "2")]),
   (sampleClock 25, .commit 0 first ⟨[]⟩ [("checkpoint", "1")]),
   (sampleClock 30, .scheduleCompaction 0),
   (sampleClock 31, .commit 1 (some (sampleClock 30).instantTime) ⟨[]⟩ []),
   (sampleClock 35, .startCommit 1),
   (sampleClock 36, .write 1 .upsert [sampleRecord "a" "lost"] third),
   (sampleClock 37, .rollback 1 third),
   (sampleClock 40, .startCommit 0),
   (sampleClock 41, .write 0 .insert [sampleRecord "c" "late"] fourth)]

/-- What the sample leaves: two commits among five instants, their records, and a row that waits. -/
theorem sampleHistory : ∃ events warehouse, History events warehouse ∧
    (warehouse.store.table? "/t/events").map (·.tableType) = some .mergeOnRead ∧
    (warehouse.store.instantsOf "/t/events").map (fun row => (row.time, row.state)) =
      [("20250101000010000", .completed), ("20250101000020000", .completed), ("20250101000030000", .requested),
       ("20250101000035000", .rolledBack), ("20250101000040000", .inflight)] ∧
    warehouse.store.records.map (fun row => (row.basePath, row.recordKey, row.commitTime)) =
      [("/t/events", "a", "20250101000010000"), ("/t/events", "b", "20250101000010000")] ∧
    warehouse.store.staged.map (fun row => (row.recordKey, row.instantTime)) = [("c", "20250101000040000")] :=
  ⟨_, _, run_play {} sampleRequests, by decide +kernel⟩

end TableSync.Warehouse
