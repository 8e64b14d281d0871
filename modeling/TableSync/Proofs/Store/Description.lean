/-
  TableSync/Proofs/Store/Description.lean
  =======================================
  **What a catalog is told of a table** — its partitions and its schema, from what was done.

  The partitions are those of the visible records, and these are the replay of
  the commits (`Store.Mirrors`).  The schema is written with a commit, whatever
  the time of its instant is, by every client that has one.  `perform_tables`
  says what an operation does to the shells of the tables; from it follows that
  the schema is that of the last commit that brought one (`Run.schema?_eq`), and
  that nothing but a commit that was answered with yes makes a difference
  (`perform_describes`).
-/
import Mathlib.Data.String.Basic
import TableSync.Proofs.Distinct
import TableSync.Proofs.Store.Replay

namespace TableSync

open Store

/-! ## 1. Partitions -/

namespace Store

variable {store after : Store} {path partition : String} {config : WriteConfig} {shell : TableShell} {deed : Deed}

theorem mem_partitions : partition ∈ store.partitions path ↔
    partition ≠ "" ∧ ∃ row ∈ store.records, row.basePath = path ∧ row.partitionPath = partition := by
  unfold partitions recordsOf
  rw [(List.mergeSort_perm _ _).mem_iff, List.mem_eraseDups, List.mem_filter, List.mem_map]
  constructor
  · rintro ⟨⟨row, hrow, rfl⟩, hsome⟩
    obtain ⟨hmem, hpath⟩ := List.mem_filter.1 hrow
    exact ⟨by simpa using hsome, row, hmem, by simpa using hpath, rfl⟩
  · rintro ⟨hsome, row, hmem, hpath, rfl⟩
    exact ⟨⟨row, List.mem_filter.2 ⟨hmem, by simpa using hpath⟩, rfl⟩, by simpa using hsome⟩

theorem partitions_increasing : (store.partitions path).Pairwise (· < ·) := by
  have hsorted : (store.partitions path).Pairwise fun a b => a ≤ b := pairwise_le_mergeSort id _
  have hapart : (store.partitions path).Nodup := (List.mergeSort_perm _ _).nodup_iff.2 (nodup_eraseDups _)
  exact (hsorted.and hapart).imp fun ⟨hle, hne⟩ => lt_of_le_of_ne hle hne

/-! ## 2. Schemas -/

/-- The schema of a table, if one is recorded. -/
def schema? (store : Store) (path : String) : Option Value := (store.table? path).bind (·.schema)

theorem table?_congr (h : after.tables = store.tables) (path : String) : after.table? path = store.table? path := by
  rw [table?, table?, h]

theorem schema?_congr (h : after.tables = store.tables) (path : String) : after.schema? path = store.schema? path := by
  rw [schema?, schema?, table?_congr h]

theorem table?_recordSchema_other (h : path ≠ config.basePath) :
    (store.recordSchema config).table? path = store.table? path := by
  unfold recordSchema
  split
  · rfl
  · rw [table?_updateTable]
    · simp [h]
    · exact fun _ => rfl

theorem schema?_recordSchema (h : store.hasTable config.basePath = true) :
    (store.recordSchema config).schema? config.basePath =
      (config.writeSchema.map TableSchema.toValue).or (store.schema? config.basePath) := by
  obtain ⟨shell, hshell⟩ := Option.isSome_iff_exists.1 h
  unfold recordSchema schema?
  split
  next hnone => simp [hnone]
  next schema hsome =>
    rw [table?_updateTable, hshell]
    · simp [hsome]
    · exact fun _ => rfl

theorem tables_recordSchema (h : after.tables = store.tables) :
    (after.recordSchema config).tables = (store.recordSchema config).tables := by
  unfold recordSchema
  split
  · exact h
  · rw [updateTable, updateTable, h]

theorem tables_rollback {named : Option String} {now : Timestamp} :
    (store.rollback config named now).2.tables = store.tables := by
  unfold rollback
  split
  · rfl
  · split <;> rfl

theorem table?_registered (h : store.hasTable path = true) :
    ({ store with tables := store.tables ++ [shell] } : Store).table? path = store.table? path := by
  unfold hasTable table? at h
  unfold table?
  rw [List.find?_append, Option.or_of_isSome h]

theorem schema?_registered (hbare : shell.schema = none) (path : String) :
    ({ store with tables := store.tables ++ [shell] } : Store).schema? path = store.schema? path := by
  unfold schema? table?
  rw [List.find?_append]
  cases store.tables.find? fun shell => shell.basePath == path with
  | some old => rfl
  | none =>
    rw [Option.none_or, List.find?_singleton]
    split
    · exact hbare
    · rfl

/-- Only a commit changes what readers see. -/
theorem Change.records (h : store.Change deed after) (hdeed : deed.committed? = none) :
    after.records = store.records := by
  cases h with
  | committed => cases hdeed
  | _ => rfl

end Store

/-! ## 3. Last versions -/

/-- The last version of a record that commits made. -/
def Deed.lastVersion? (deeds : List Deed) (basePath recordKey : String) : Option VisibleRow :=
  ((applied deeds).filter (VisibleRow.isVersion basePath recordKey)).getLast?

/-- Readers see the last version of every record, and nothing else. -/
theorem Deed.mem_replayed_iff {deeds : List Deed} {row : VisibleRow} : row ∈ replayed deeds ↔
    ∃ recordKey, lastVersion? deeds row.basePath recordKey = some row := by
  have hlatest : Latest (replayed deeds) (applied deeds) := latest_foldl _
  constructor
  · intro h
    have hself : row ∈ (replayed deeds).filter (VisibleRow.isVersion row.basePath row.recordKey) :=
      List.mem_filter.2 ⟨h, isVersion_iff.2 ⟨rfl, rfl⟩⟩
    rw [hlatest] at hself
    exact ⟨row.recordKey, Option.mem_toList.1 hself⟩
  · rintro ⟨recordKey, hlast⟩
    have hseen : row ∈ (replayed deeds).filter (VisibleRow.isVersion row.basePath recordKey) := by
      rw [hlatest]
      exact Option.mem_toList.2 hlast
    exact List.mem_of_mem_filter hseen

theorem Deed.basePath_of_lastVersion? {deeds : List Deed} {basePath recordKey : String} {row : VisibleRow}
    (h : lastVersion? deeds basePath recordKey = some row) : row.basePath = basePath :=
  (isVersion_iff.1 (List.mem_filter.1 (List.mem_of_getLast? h)).2).1

theorem Store.Mirrors.mem_partitions {store : Store} {deeds : List Deed} {path partition : String}
    (h : store.Mirrors deeds) : partition ∈ store.partitions path ↔
      partition ≠ "" ∧ ∃ recordKey row, Deed.lastVersion? deeds path recordKey = some row ∧
        row.partitionPath = partition := by
  rw [Store.mem_partitions, h.visible]
  refine and_congr_right fun _ => ⟨?_, ?_⟩
  · rintro ⟨row, hrow, rfl, rfl⟩
    obtain ⟨recordKey, hlast⟩ := Deed.mem_replayed_iff.1 hrow
    exact ⟨recordKey, row, hlast, rfl⟩
  · rintro ⟨recordKey, row, hlast, rfl⟩
    obtain rfl := Deed.basePath_of_lastVersion? hlast
    exact ⟨row, Deed.mem_replayed_iff.2 ⟨recordKey, hlast⟩, rfl, rfl⟩

/-! ## 4. One operation -/

namespace Warehouse

/-- The operation is a commit that was answered with yes. -/
def Operation.Accepted (operation : Operation) (reply : Except Failure Reply) : Prop :=
  ∃ client time outcome extra, operation = .commit client time outcome extra ∧ reply = .ok (.truth true)

/-- What an operation does to the shells of the tables. -/
inductive Shells (w : World Warehouse) (operation : Operation) (reply : Except Failure Reply)
    (w' : World Warehouse) : Prop where
  | kept (quiet : ¬operation.Accepted reply) (same : w'.state.store.tables = w.state.store.tables)
  | registered (shell : TableShell) (request : operation = .initTable shell)
      (absent : w.state.store.hasTable shell.basePath = false)
      (added : w'.state.store.tables = w.state.store.tables ++ [shell])
  | committed (id : ClientId) (time : Option String) (outcome : WriteOutcome) (extra : Fields String)
      (known : ClientRecord) (request : operation = .commit id time outcome extra) (yes : reply = .ok (.truth true))
      (client : w.state.clients[id]? = some known) (table : w.state.store.hasTable known.config.basePath = true)
      (recorded : w'.state.store.tables = (w.state.store.recordSchema known.config).tables)

variable {w w' : World Warehouse} {operation : Operation} {reply : Except Failure Reply}

theorem perform_tables (hlawful : w.state.store.Lawful) (hrun : (perform operation).runIn w = (reply, w')) :
    Shells w operation reply w' := by
  have hfailed : ∀ failure, reply = .error failure → w'.state.store = w.state.store → Shells w operation reply w' := by
    rintro failure rfl hsame
    exact .kept (fun ⟨_, _, _, _, _, hyes⟩ => by cases hyes) (congrArg _ hsame)
  have hkept : (∀ client time outcome extra, operation ≠ .commit client time outcome extra) →
      w'.state.store.tables = w.state.store.tables → Shells w operation reply w' :=
    fun hother hsame => .kept (fun ⟨_, _, _, _, hcommit, _⟩ => hother _ _ _ _ hcommit) hsame
  cases operation with
  | initTable shell =>
    obtain ⟨outcome, hinit, rfl⟩ := answer_cases hrun
    rcases initTable_yields shell _ _ hinit with ⟨failure, rfl, hsame⟩ | ⟨_, rfl, hdone⟩
    · exact hfailed failure rfl hsame
    · unfold Store.initTable at hdone
      split at hdone
      · exact hkept nofun (congrArg _ (Except.ok.inj hdone).symm)
      next habsent =>
        split at hdone
        · cases hdone
        · exact .registered shell rfl (by simpa using habsent) (congrArg _ (Except.ok.inj hdone).symm)
  | metadataExists basePath =>
    cases hrun
    exact hkept nofun rfl
  | openMetadata basePath =>
    obtain ⟨outcome, hopen, rfl⟩ := answer_cases hrun
    cases hopen
    exact hkept nofun rfl
  | describeTable basePath =>
    obtain ⟨outcome, hdescribe, rfl⟩ := answer_cases hrun
    cases hdescribe
    exact hkept nofun rfl
  | newClient config =>
    cases hrun
    exact hkept nofun rfl
  | startCommit client =>
    obtain ⟨outcome, hstart, rfl⟩ := answer_cases hrun
    rcases startCommit_yields _ _ hstart with ⟨failure, rfl, hsame⟩ | ⟨time, rfl, known, now, hknown, hdone⟩
    · exact hfailed failure rfl hsame
    · obtain ⟨-, -, hafter⟩ := newInstant_eq_ok hlawful hdone
      exact hkept nofun (hafter ▸ rfl)
  | write client operation records time =>
    obtain ⟨outcome, hwrite, rfl⟩ := answer_cases hrun
    rcases write_yields _ _ _ _ _ hwrite with ⟨failure, rfl, hsame⟩ | ⟨counts, rfl, known, batch, now, -, -, hdone⟩
    · exact hfailed failure rfl hsame
    · obtain ⟨instant, -, -, -, -, hafter⟩ := stage_eq_ok hdone
      exact hkept nofun (hafter ▸ rfl)
  | commit client time counts extra =>
    obtain ⟨outcome, hcommit, rfl⟩ := answer_cases hrun
    rcases commit_yields _ _ _ _ _ hcommit with ⟨failure, rfl, hsame⟩ | ⟨_ | _, rfl, hdone⟩
    · exact hfailed failure rfl hsame
    · exact .kept (fun ⟨_, _, _, _, _, hyes⟩ => by cases hyes) (congrArg _ hdone)
    · obtain ⟨known, hknown, hcommitted⟩ := hdone
      obtain ⟨instant, hmem, records, hpath, -, -, -, hafter⟩ := commit_eq_ok hcommitted
      refine .committed client time counts extra known rfl rfl hknown ?_ ?_
      · exact hpath ▸ hlawful.registered instant hmem
      · rw [hafter]
        exact tables_recordSchema rfl
  | rollback client time =>
    obtain ⟨outcome, hrollback, rfl⟩ := answer_cases hrun
    rcases rollback_yields _ _ _ hrollback with ⟨failure, rfl, hsame⟩ | ⟨done, rfl, known, now, -, hdone⟩
    · exact hfailed failure rfl hsame
    · refine hkept nofun ?_
      rw [hdone]
      exact tables_rollback
  | scheduleCompaction client =>
    obtain ⟨outcome, hschedule, rfl⟩ := answer_cases hrun
    rcases scheduleCompaction_yields _ _ hschedule with ⟨failure, rfl, hsame⟩ | ⟨asked, rfl, known, now, hknown, hdone⟩
    · exact hfailed failure rfl hsame
    · rcases scheduleCompaction_eq_ok hlawful hdone with ⟨-, hafter⟩ | ⟨time, -, -, -, hafter⟩
      · exact hkept nofun (congrArg _ hafter)
      · exact hkept nofun (hafter ▸ rfl)
  | close client =>
    cases hrun
    exact hkept nofun rfl

/-- Nothing but a commit that was answered with yes makes a difference to the description of a table. -/
theorem perform_describes {path : String} (hlawful : w.state.store.Lawful)
    (hrun : (perform operation).runIn w = (reply, w')) (htable : w.state.store.hasTable path = true)
    (hquiet : ¬operation.Accepted reply) (now : Timestamp) :
    w'.state.store.describeTable path now = w.state.store.describeTable path now := by
  have hrecords : w'.state.store.records = w.state.store.records := by
    refine (perform_change hlawful hrun).records ?_
    cases hdeed : (Event.of operation w reply w').deed with
    | committed entry =>
      obtain ⟨client, config, hoperation, hreply, -⟩ := Event.yes_of_committed hdeed
      exact absurd ⟨client, _, _, _, hoperation, hreply⟩ hquiet
    | _ => rfl
  have hshell : w'.state.store.table? path = w.state.store.table? path := by
    cases perform_tables hlawful hrun with
    | kept _ hsame => exact table?_congr hsame path
    | registered shell _ _ hadded =>
      calc w'.state.store.table? path
          = ({ w.state.store with tables := w.state.store.tables ++ [shell] } : Store).table? path :=
            table?_congr hadded path
        _ = w.state.store.table? path := table?_registered htable
    | committed client time outcome extra _ hrequest hyes => exact absurd ⟨_, _, _, _, hrequest, hyes⟩ hquiet
  rw [Store.describeTable, Store.describeTable, partitions, partitions, recordsOf, recordsOf, hrecords, hshell]

/-! ## 5. Histories -/

/-- The schema that a commit brought to a table, if it was answered with yes and its client has one. -/
def Event.schema? (path : String) (event : Event) : Option Value :=
  match event.operation, event.config, event.reply with
  | .commit .., some config, .ok (.truth true) =>
    if config.basePath = path then config.writeSchema.map TableSchema.toValue else none
  | _, _, _ => none

/-- Tables are registered without a schema. -/
def Operation.isBare : Operation → Bool
  | .initTable shell => shell.schema.isNone
  | _ => true

variable {path : String} {start warehouse : Warehouse} {events : List Event}

theorem Event.schema?_of_quiet {event : Event} (h : ¬event.operation.Accepted event.reply) :
    event.schema? path = none := by
  unfold schema?
  split
  next hoperation _ hreply => exact absurd ⟨_, _, _, _, hoperation, hreply⟩ h
  next => rfl

/-- After an operation the schema of a table is the one that it brought, and otherwise the one before. -/
theorem perform_schema? (hlawful : w.state.store.Lawful) (hrun : (perform operation).runIn w = (reply, w'))
    (hbare : operation.isBare = true) (path : String) : w'.state.store.schema? path =
      ((Event.of operation w reply w').schema? path).or (w.state.store.schema? path) := by
  cases perform_tables hlawful hrun with
  | kept hquiet hsame =>
    rw [Event.schema?_of_quiet hquiet, Option.none_or]
    exact schema?_congr hsame path
  | registered shell hrequest _ hadded =>
    subst hrequest
    have hquiet : (Event.of (.initTable shell) w reply w').schema? path = none := rfl
    rw [hquiet, Option.none_or]
    calc w'.state.store.schema? path
        = ({ w.state.store with tables := w.state.store.tables ++ [shell] } : Store).schema? path :=
          schema?_congr hadded path
      _ = w.state.store.schema? path := schema?_registered (Option.isNone_iff_eq_none.1 hbare) path
  | committed client time outcome extra known hrequest hyes hclient htable hrecorded =>
    subst hrequest hyes
    have hevent : (Event.of (.commit client time outcome extra) w (.ok (.truth true)) w').schema? path =
        if known.config.basePath = path then known.config.writeSchema.map TableSchema.toValue else none := by
      rw [Event.schema?, Event.of_config rfl hclient]
      rfl
    rw [hevent, schema?_congr hrecorded path]
    by_cases hpath : known.config.basePath = path
    · subst hpath
      rw [if_pos rfl, schema?_recordSchema htable]
    · rw [if_neg hpath, Option.none_or, Store.schema?, table?_recordSchema_other (Ne.symm hpath), Store.schema?]

theorem Run.schema?_eq (h : Run start events warehouse) (hlawful : start.store.Lawful)
    (hbare : ∀ event ∈ events, event.operation.isBare = true) (path : String) :
    warehouse.store.schema? path =
      ((events.filterMap (Event.schema? path)).getLast?).or (start.store.schema? path) := by
  induction h with
  | none => rfl
  | more hbefore hrun ih =>
    obtain ⟨hbares, hlast⟩ := List.forall_mem_append.1 hbare
    rw [perform_schema? (hbefore.lawful hlawful) hrun (hlast _ (List.mem_singleton_self _)) path, ih hbares,
      List.filterMap_append]
    cases hschema : Event.schema? path _ with
    | none => simp [hschema]
    | some schema => simp [hschema]

/-- **A catalog is told what was committed.**  After any history, a table that is registered is described with the
partitions of the last versions of its records, without the empty one, each once and in ascending order, and with the
schema of the last commit by a client that has one.  Nothing but a commit that is answered with yes changes the
description. -/
theorem History.describes (h : History events warehouse) (hbare : ∀ event ∈ events, event.operation.isBare = true)
    (htable : warehouse.store.hasTable path = true) :
    (∀ w : World Warehouse, w.state = warehouse → ∃ description,
      (perform (.describeTable path)).runIn w = (.ok (.description description), w) ∧
      description.partitions.Pairwise (· < ·) ∧
      (∀ partition, partition ∈ description.partitions ↔ partition ≠ "" ∧ ∃ recordKey row,
        Deed.lastVersion? (events.map Event.deed) path recordKey = some row ∧ row.partitionPath = partition) ∧
      description.schema = (events.filterMap (Event.schema? path)).getLast?) ∧
    ∀ operation (w : World Warehouse) reply w', w.state = warehouse →
      (perform operation).runIn w = (reply, w') → ¬operation.Accepted reply →
      ∀ now, w'.state.store.describeTable path now = warehouse.store.describeTable path now := by
  obtain ⟨shell, hshell⟩ := Option.isSome_iff_exists.1 htable
  refine ⟨?_, ?_⟩
  · rintro w rfl
    refine ⟨⟨shell.tableName, path, shell.schema, w.state.store.partitions path⟩, ?_, partitions_increasing,
      fun _ => (History.mirrors h).mem_partitions, ?_⟩
    · have hanswer : (describeTable path).runIn w =
          (.ok ⟨shell.tableName, path, shell.schema, w.state.store.partitions path⟩, w) := by
        show (w.state.store.describeTable path w.now, w) = _
        rw [Store.describeTable, hshell]
      exact Effect.runIn_bind_ok hanswer
    · have hschema := h.schema?_eq Store.lawful_empty hbare path
      have hnone : (({} : Warehouse).store).schema? path = none := rfl
      rw [hnone, Option.or_none, Store.schema?, hshell] at hschema
      exact hschema
  · rintro operation w reply w' rfl hrun hquiet now
    exact perform_describes (History.lawful h) hrun htable hquiet now

/-- Two clients of one table, of which the first has a schema. The second one inserts two records and commits first;
the upsert of the first moves one of them into the partition of the other. A third instant is rolled back. -/
def movingRequests : List (Timestamp × Operation) :=
  let config : WriteConfig := { basePath := "/t/events", tableName := "events" }
  let record (key partition : String) : PreparedRecord := { key := ⟨key, partition⟩ }
  let first := some (sampleClock 10).instantTime
  let second := some (sampleClock 20).instantTime
  let third := some (sampleClock 30).instantTime
  [(sampleClock 0, .initTable ⟨"/t/events", "events", .copyOnWrite, "", "archived", none⟩),
   (sampleClock 0, .newClient { config with writeSchema := some { name := "event" } }),
   (sampleClock 0, .newClient config),
   (sampleClock 10, .startCommit 0),
   (sampleClock 20, .startCommit 1),
   (sampleClock 21, .write 1 .insert [record "a" "2024-01", record "b" "2024-02"] second),
   (sampleClock 22, .write 0 .upsert [record "a" "2024-02"] first),
   (sampleClock 23, .commit 1 second ⟨[]⟩ []),
   (sampleClock 24, .commit 0 first ⟨[]⟩ []),
   (sampleClock 30, .startCommit 1),
   (sampleClock 31, .write 1 .insert [record "c" "2024-03"] third),
   (sampleClock 32, .rollback 1 third)]

/-- The partition that lost its last record is gone, the one of the rollback never was, and the schema is there. -/
theorem moving_describes : ∃ events warehouse, History events warehouse ∧
    (∀ event ∈ events, event.operation.isBare = true) ∧ warehouse.store.hasTable "/t/events" = true ∧
    ∀ w : World Warehouse, w.state = warehouse → ∃ description,
      (perform (.describeTable "/t/events")).runIn w = (.ok (.description description), w) ∧
      (∀ partition, partition ∈ description.partitions ↔ partition = "2024-02") ∧
      description.schema.isSome = true := by
  obtain ⟨events, hevents⟩ : ∃ events, events = (play {} movingRequests).1 := ⟨_, rfl⟩
  have hhistory : History events (play {} movingRequests).2 := hevents ▸ run_play {} movingRequests
  have hbare : ∀ event ∈ events, event.operation.isBare = true := by
    rw [hevents]
    decide +kernel
  have htable : (play {} movingRequests).2.store.hasTable "/t/events" = true := by decide +kernel
  obtain ⟨hdescribed, -⟩ := History.describes hhistory hbare htable
  refine ⟨events, _, hhistory, hbare, htable, fun w hw => ?_⟩
  obtain ⟨description, hrun, -, hpartitions, hschema⟩ := hdescribed w hw
  have hrows : ∀ row ∈ Deed.replayed (events.map Event.deed), row.partitionPath = "2024-02" := by
    rw [hevents]
    decide +kernel
  have hlast : (Deed.lastVersion? (events.map Event.deed) "/t/events" "b").map (·.partitionPath) = some "2024-02" := by
    rw [hevents]
    decide +kernel
  refine ⟨description, hrun, fun partition => ?_, ?_⟩
  · rw [hpartitions]
    constructor
    · rintro ⟨-, recordKey, row, hrow, rfl⟩
      have hpath := Deed.basePath_of_lastVersion? hrow
      exact hrows row (Deed.mem_replayed_iff.2 ⟨recordKey, hpath.symm ▸ hrow⟩)
    · rintro rfl
      obtain ⟨row, hrow, hpartition⟩ := Option.map_eq_some_iff.1 hlast
      exact ⟨by decide, "b", row, hrow, hpartition⟩
  · rw [hschema, hevents]
    decide +kernel

end Warehouse

end TableSync
