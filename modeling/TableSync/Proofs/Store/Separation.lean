/-
  TableSync/Proofs/Store/Separation.lean
  ======================================
  **Tables do not influence each other** — other tables can be left out of a history.

  Any number of clients of any number of tables ask the warehouse for
  operations.  `requestsOn path` keeps those that are on one table, each at its
  own moment, and deletes all others.  Clients are named by their places, so
  what is kept names them by their places among the clients of the table
  (`placeAmong`).  `tables_apart` says that nobody at the table can tell the
  difference: every operation answers the same, and the table ends up the same.

  The proof runs both histories side by side.  An operation elsewhere changes
  only the one warehouse, and nothing of this table (`perform_elsewhere`); an
  operation on the table does the same in both (`perform_alike`).
-/
import TableSync.Proofs.Store.History
import TableSync.Proofs.Store.Twins

namespace TableSync.Warehouse

/-! ## 1. The operations on a table -/

/-- The path of the table that an operation is on. `paths` are those of the clients handed out so far. -/
def Operation.path? (paths : List String) : Operation → Option String
  | .initTable shell => some shell.basePath
  | .metadataExists basePath => some basePath
  | .openMetadata basePath => some basePath
  | .describeTable basePath => some basePath
  | .newClient config => some config.basePath
  | .startCommit client => paths[client]?
  | .write client _ _ _ => paths[client]?
  | .commit client _ _ _ => paths[client]?
  | .rollback client _ => paths[client]?
  | .scheduleCompaction client => paths[client]?
  | .close client => paths[client]?

/-- The paths of the clients that an operation hands out. -/
def Operation.newPaths : Operation → List String
  | .newClient config => [config.basePath]
  | _ => []

/-- The place of a client among those of a table. -/
def placeAmong (path : String) (paths : List String) (client : ClientId) : ClientId := (paths.take client).count path

/-- The operation with its client under another number. -/
def Operation.renumber (place : ClientId → ClientId) : Operation → Operation
  | .startCommit client => .startCommit (place client)
  | .write client operation records time => .write (place client) operation records time
  | .commit client time outcome extra => .commit (place client) time outcome extra
  | .rollback client time => .rollback (place client) time
  | .scheduleCompaction client => .scheduleCompaction (place client)
  | .close client => .close (place client)
  | operation => operation

/-- The reply with its client under another number. -/
def Reply.renumber (place : ClientId → ClientId) : Reply → Reply
  | .client id => .client (place id)
  | reply => reply

/-- The requests on a table, with its clients by their places among themselves. -/
def requestsOn (path : String) (paths : List String) :
    List (Timestamp × Operation) → List (Timestamp × Operation)
  | [] => []
  | (now, operation) :: rest =>
    let others := requestsOn path (paths ++ operation.newPaths) rest
    if operation.path? paths = some path then (now, operation.renumber (placeAmong path paths)) :: others else others

/-- The replies to the requests on a table, with its clients by their places among themselves. -/
def repliesOn (path : String) (paths : List String) : List Event → List (Except Failure Reply)
  | [] => []
  | event :: rest =>
    let others := repliesOn path (paths ++ event.operation.newPaths) rest
    if event.operation.path? paths = some path then
      event.reply.map (Reply.renumber (placeAmong path paths)) :: others else others

/-- The tables that requests ask to register. -/
def shellsOf (requests : List (Timestamp × Operation)) : List TableShell :=
  requests.filterMap fun request => match request.2 with
    | .initTable shell => some shell
    | _ => none

/-- No other table is to be registered under a name that is one for the table at a path. -/
def NamesApart (path : String) (requests : List (Timestamp × Operation)) : Prop :=
  ∀ shell ∈ shellsOf requests, ∀ other ∈ shellsOf requests,
    shell.basePath = path → other.basePath ≠ path → shell.tableName ≠ other.tableName

instance (path : String) (requests : List (Timestamp × Operation)) : Decidable (NamesApart path requests) :=
  inferInstanceAs (Decidable (∀ shell ∈ shellsOf requests, ∀ other ∈ shellsOf requests,
    shell.basePath = path → other.basePath ≠ path → shell.tableName ≠ other.tableName))

/-! ## 2. Clients -/

/-- The clients after an operation. -/
def Operation.clientsAfter (clients : List ClientRecord) : Operation → List ClientRecord
  | .newClient config => clients ++ [{ config }]
  | .close client => clients.modify client fun known => { known with closed := true }
  | _ => clients

/-- The paths of clients. -/
def pathsOf (clients : List ClientRecord) : List String := clients.map (·.config.basePath)

/-- The clients of a table. -/
def clientsOn (path : String) (clients : List ClientRecord) : List ClientRecord :=
  clients.filter fun known => known.config.basePath == path

section Clients

variable {path : String} {clients : List ClientRecord} {client : ClientId} {known : ClientRecord}
variable {operation : Operation}

theorem pathsOf_getElem? : (pathsOf clients)[client]? = clients[client]?.map (·.config.basePath) := by
  simp [pathsOf]

theorem pathsOf_clientsAfter : pathsOf (operation.clientsAfter clients) = pathsOf clients ++ operation.newPaths := by
  have hclose : ∀ client : ClientId,
      pathsOf (clients.modify client fun known => { known with closed := true }) = pathsOf clients := by
    intro client
    refine List.ext_getElem? fun place => ?_
    rw [pathsOf_getElem?, pathsOf_getElem?, List.getElem?_modify]
    cases clients[place]? with
    | none => rfl
    | some known =>
      by_cases h : client = place <;> simp [h]
  cases operation <;> simp [Operation.clientsAfter, Operation.newPaths, hclose]
  case newClient config => simp [pathsOf]

theorem clientsOn_length : (clientsOn path clients).length = placeAmong path (pathsOf clients) clients.length := by
  have hall : (pathsOf clients).take clients.length = pathsOf clients :=
    List.take_of_length_le (by simp [pathsOf])
  rw [placeAmong, hall, pathsOf, List.count, List.countP_map, clientsOn, List.countP_eq_length_filter]
  rfl

theorem clientsOn_getElem? (hknown : clients[client]? = some known) (hpath : known.config.basePath = path) :
    (clientsOn path clients)[placeAmong path (pathsOf clients) client]? = some known := by
  induction clients generalizing client with
  | nil => simp at hknown
  | cons first rest ih =>
    cases client with
    | zero =>
      obtain rfl : first = known := by simpa using hknown
      simp [clientsOn, placeAmong, hpath]
    | succ client =>
      have hrest := @ih client (by simpa using hknown)
      by_cases hfirst : first.config.basePath = path
      · simpa [clientsOn, placeAmong, pathsOf, hfirst, List.count_cons] using hrest
      · simpa [clientsOn, placeAmong, pathsOf, hfirst, List.count_cons] using hrest

theorem clientsOn_close (hpath : (pathsOf clients)[client]? = some path) :
    clientsOn path (clients.modify client fun known => { known with closed := true }) =
      (clientsOn path clients).modify (placeAmong path (pathsOf clients) client)
        fun known => { known with closed := true } := by
  induction clients generalizing client with
  | nil => simp [pathsOf] at hpath
  | cons first rest ih =>
    cases client with
    | zero =>
      have hfirst : first.config.basePath = path := by simpa [pathsOf] using hpath
      simp [clientsOn, placeAmong, hfirst]
    | succ client =>
      have hrest := @ih client (by simpa [pathsOf] using hpath)
      by_cases hfirst : first.config.basePath = path
      · simpa [clientsOn, placeAmong, pathsOf, hfirst, List.count_cons] using hrest
      · simpa [clientsOn, placeAmong, pathsOf, hfirst, List.count_cons] using hrest

theorem clientsOn_close_elsewhere (hpath : (pathsOf clients)[client]? ≠ some path) :
    clientsOn path (clients.modify client fun known => { known with closed := true }) = clientsOn path clients := by
  induction clients generalizing client with
  | nil => simp
  | cons first rest ih =>
    cases client with
    | zero =>
      have hfirst : first.config.basePath ≠ path := by simpa [pathsOf] using hpath
      simp [clientsOn, hfirst]
    | succ client =>
      have hrest := @ih client (by simpa [pathsOf] using hpath)
      by_cases hfirst : first.config.basePath = path
      · simpa [clientsOn, hfirst] using hrest
      · simpa [clientsOn, hfirst] using hrest

theorem clientsOn_clientsAfter (hpath : operation.path? (pathsOf clients) = some path) :
    clientsOn path (operation.clientsAfter clients) =
      (operation.renumber (placeAmong path (pathsOf clients))).clientsAfter (clientsOn path clients) := by
  cases operation with
  | newClient config =>
    have hconfig : config.basePath = path := by simpa [Operation.path?] using hpath
    simp [Operation.clientsAfter, Operation.renumber, clientsOn, hconfig]
  | close client => exact clientsOn_close hpath
  | _ => rfl

theorem clientsOn_clientsAfter_elsewhere (hpath : operation.path? (pathsOf clients) ≠ some path) :
    clientsOn path (operation.clientsAfter clients) = clientsOn path clients := by
  cases operation with
  | newClient config =>
    have hconfig : config.basePath ≠ path := by simpa [Operation.path?] using hpath
    simp [Operation.clientsAfter, clientsOn, hconfig]
  | close client => exact clientsOn_close_elsewhere hpath
  | _ => rfl

end Clients

/-- Handing out and closing is all that an operation does to the clients. -/
theorem perform_clients {operation : Operation} {w w' : World Warehouse} {reply : Except Failure Reply}
    (hrun : (perform operation).runIn w = (reply, w')) :
    w'.state.clients = operation.clientsAfter w.state.clients := by
  have hheld : ∀ {α : Type} {step : Effect Warehouse α} {f : α → Reply} {Q : α → Store → Prop} {E : Store → Prop},
      Effect.Leads (Holds w.state.clients fun _ => True) step (fun a => Holds w.state.clients (Q a))
        (fun _ => Holds w.state.clients E) →
      (do return f (← step) : Effect Warehouse Reply).runIn w = (reply, w') → w'.state.clients = w.state.clients := by
    intro α step f Q E h hrun
    obtain ⟨outcome, hstep, -⟩ := answer_cases hrun
    cases outcome with
    | ok a => exact (h.of_ok ⟨rfl, trivial⟩ hstep).1
    | error failure => exact (h.of_error ⟨rfl, trivial⟩ hstep).1
  have hany : ∀ s : Store, True → True := fun _ _ => trivial
  cases operation with
  | initTable shell => exact hheld (initTable_leads (R := fun _ => True) (fun _ _ _ _ => trivial) hany) hrun
  | metadataExists basePath =>
    cases hrun
    rfl
  | openMetadata basePath => exact hheld (openMetadata_leads basePath hany) hrun
  | describeTable basePath => exact hheld (describeTable_leads basePath hany) hrun
  | newClient config =>
    cases hrun
    rfl
  | startCommit client =>
    exact hheld (startCommit_leads (R := fun _ _ => True) hany fun _ _ _ _ _ _ _ _ _ => trivial) hrun
  | write client operation records time =>
    exact hheld (write_leads (R := fun _ _ => True) hany fun _ _ _ _ _ _ _ _ _ _ _ => trivial) hrun
  | commit client time outcome extra =>
    exact hheld (commit_leads (R := fun _ _ => True) (fun _ => hany) (fun _ _ _ _ _ _ _ _ => trivial)
      (fun _ _ _ _ _ _ _ _ _ => trivial) fun _ _ _ _ _ _ _ => trivial) hrun
  | rollback client time =>
    exact hheld (rollback_leads (R := fun _ _ => True) (fun _ => hany) fun _ _ _ _ _ _ => trivial) hrun
  | scheduleCompaction client =>
    exact hheld (scheduleCompaction_leads (R := fun _ _ => True) hany fun _ _ _ _ _ _ _ _ _ => trivial) hrun
  | close client =>
    cases hrun
    rfl

/-! ## 3. One operation -/

section Operation

variable {path : String} {own : String → Prop} {operation : Operation} {w w' v : World Warehouse}

theorem perform_elsewhere {alone : Store} {reply : Except Failure Reply}
    (hrun : (perform operation).runIn w = (reply, w'))
    (hpath : operation.path? (pathsOf w.state.clients) ≠ some path)
    (hname : ∀ shell, operation = .initTable shell → ¬own shell.tableName)
    (h : Store.Agree path own w.state.store alone) : Store.Agree path own w'.state.store alone := by
  have hsame : w'.state.store = w.state.store → Store.Agree path own w'.state.store alone := by
    intro hsame
    rw [hsame]
    exact h
  have hclient : ∀ {client : ClientId} {known : ClientRecord}, w.state.clients[client]? = some known →
      (pathsOf w.state.clients)[client]? ≠ some path →
      w.state.store.Touches known.config.basePath w'.state.store → Store.Agree path own w'.state.store alone := by
    intro client known hknown hpath htouches
    refine h.elsewhere htouches fun hequal => hpath ?_
    rw [pathsOf_getElem?, hknown, hequal]
    rfl
  cases operation with
  | initTable shell =>
    obtain ⟨outcome, hinit, rfl⟩ := answer_cases hrun
    rcases initTable_yields shell _ _ hinit with ⟨failure, rfl, hstay⟩ | ⟨_, rfl, hdone⟩
    · exact hsame hstay
    · exact h.initTable_elsewhere hdone (by simpa [Operation.path?] using hpath) (hname shell rfl)
  | metadataExists basePath =>
    cases hrun
    exact h
  | openMetadata basePath =>
    obtain ⟨outcome, hopen, rfl⟩ := answer_cases hrun
    cases hopen
    exact h
  | describeTable basePath =>
    obtain ⟨outcome, hdescribe, rfl⟩ := answer_cases hrun
    cases hdescribe
    exact h
  | newClient config =>
    cases hrun
    exact h
  | startCommit client =>
    obtain ⟨outcome, hstart, rfl⟩ := answer_cases hrun
    rcases startCommit_yields _ _ hstart with ⟨failure, rfl, hstay⟩ | ⟨time, rfl, known, now, hknown, hdone⟩
    · exact hsame hstay
    · exact hclient hknown hpath (Store.startCommit_touches hdone)
  | write client operation records time =>
    obtain ⟨outcome, hwrite, rfl⟩ := answer_cases hrun
    rcases write_yields _ _ _ _ _ hwrite with
      ⟨failure, rfl, hstay⟩ | ⟨counts, rfl, known, batch, now, hknown, -, hdone⟩
    · exact hsame hstay
    · exact hclient hknown hpath (Store.stage_touches hdone)
  | commit client time counts extra =>
    obtain ⟨outcome, hcommit, rfl⟩ := answer_cases hrun
    rcases commit_yields _ _ _ _ _ hcommit with ⟨failure, rfl, hstay⟩ | ⟨_ | _, rfl, hdone⟩
    · exact hsame hstay
    · exact hsame hdone
    · obtain ⟨known, hknown, hcommitted⟩ := hdone
      exact hclient hknown hpath (Store.commit_touches hcommitted)
  | rollback client time =>
    obtain ⟨outcome, hrollback, rfl⟩ := answer_cases hrun
    rcases rollback_yields _ _ _ hrollback with ⟨failure, rfl, hstay⟩ | ⟨done, rfl, known, now, hknown, hdone⟩
    · exact hsame hstay
    · refine hclient hknown hpath ?_
      rw [hdone]
      exact Store.rollback_touches
  | scheduleCompaction client =>
    obtain ⟨outcome, hschedule, rfl⟩ := answer_cases hrun
    rcases scheduleCompaction_yields _ _ hschedule with
      ⟨failure, rfl, hstay⟩ | ⟨asked, rfl, known, now, hknown, hdone⟩
    · exact hsame hstay
    · exact hclient hknown hpath (Store.scheduleCompaction_touches hdone)
  | close client =>
    cases hrun
    exact h

/-- Run in two worlds, two operations answer the same up to the numbers of clients, and their stores agree on a table
afterwards. -/
def Alike (path : String) (own : String → Prop) (place : ClientId → ClientId) (w v : World Warehouse)
    (operation operation' : Operation) : Prop :=
  ∃ reply w' v', (perform operation).runIn w = (reply, w') ∧
    (perform operation').runIn v = (reply.map (Reply.renumber place), v') ∧
    Store.Agree path own w'.state.store v'.state.store

theorem Twins.answer {α : Type} {step step' : Effect Warehouse α} {f : α → Reply} {place : ClientId → ClientId}
    {fullClients aloneClients : List ClientRecord} (h : Twins (Both path own fullClients aloneClients) step step')
    (hnow : w.now = v.now) (hboth : Both path own fullClients aloneClients w.state v.state)
    (hf : ∀ a, (f a).renumber place = f a) :
    ∃ reply w' v', (do return f (← step) : Effect Warehouse Reply).runIn w = (reply, w') ∧
      (do return f (← step') : Effect Warehouse Reply).runIn v = (reply.map (Reply.renumber place), v') ∧
      Store.Agree path own w'.state.store v'.state.store := by
  obtain ⟨outcome, w', v', hw, hv, -, -, -, hagree⟩ := h w v hnow hboth
  cases outcome with
  | error failure =>
    exact ⟨.error failure, w', v', Effect.runIn_bind_error hw, Effect.runIn_bind_error hv, hagree⟩
  | ok a =>
    refine ⟨.ok (f a), w', v', Effect.runIn_bind_ok hw, ?_, hagree⟩
    rw [Effect.runIn_bind_ok hv]
    show (Except.ok (f a), v') = (Except.ok ((f a).renumber place), v')
    rw [hf a]

/-- An operation on the table does the same without the clients of other tables. -/
theorem perform_alike (hnow : w.now = v.now) (hpath : operation.path? (pathsOf w.state.clients) = some path)
    (hname : ∀ shell, operation = .initTable shell → own shell.tableName)
    (hclients : v.state.clients = clientsOn path w.state.clients)
    (h : Store.Agree path own w.state.store v.state.store) :
    Alike path own (placeAmong path (pathsOf w.state.clients)) w v operation
      (operation.renumber (placeAmong path (pathsOf w.state.clients))) := by
  have hboth : Both path own w.state.clients (clientsOn path w.state.clients) w.state v.state := ⟨rfl, hclients, h⟩
  have hknown : ∀ {client : ClientId}, (pathsOf w.state.clients)[client]? = some path →
      ∃ known, w.state.clients[client]? = some known ∧ known.config.basePath = path ∧
        (clientsOn path w.state.clients)[placeAmong path (pathsOf w.state.clients) client]? = some known := by
    intro client hclient
    rw [pathsOf_getElem?] at hclient
    obtain ⟨known, hknown, hconfig⟩ := Option.map_eq_some_iff.mp hclient
    exact ⟨known, hknown, hconfig, clientsOn_getElem? hknown hconfig⟩
  cases operation with
  | initTable shell =>
    have hshell : shell.basePath = path := by simpa [Operation.path?] using hpath
    exact (initTable_twins hshell (hname shell rfl)).answer hnow hboth fun _ => rfl
  | metadataExists basePath =>
    obtain rfl : basePath = path := by simpa [Operation.path?] using hpath
    exact metadataExists_twins.answer hnow hboth fun _ => rfl
  | openMetadata basePath =>
    obtain rfl : basePath = path := by simpa [Operation.path?] using hpath
    exact openMetadata_twins.answer hnow hboth fun _ => rfl
  | describeTable basePath =>
    obtain rfl : basePath = path := by simpa [Operation.path?] using hpath
    exact describeTable_twins.answer hnow hboth fun _ => rfl
  | newClient config =>
    refine ⟨.ok (.client w.state.clients.length), _,
      { v with state := { v.state with clients := v.state.clients ++ [{ config }] } }, rfl, ?_, h⟩
    have hplace : v.state.clients.length = placeAmong path (pathsOf w.state.clients) w.state.clients.length := by
      rw [hclients, clientsOn_length]
    show (Except.ok (Reply.client v.state.clients.length), _) = (Except.ok (Reply.client _), _)
    rw [hplace]
  | startCommit client =>
    obtain ⟨known, hfull, hconfig, halone⟩ := hknown hpath
    exact (startCommit_twins hfull halone hconfig).answer hnow hboth fun _ => rfl
  | write client operation records time =>
    obtain ⟨known, hfull, hconfig, halone⟩ := hknown hpath
    exact (write_twins hfull halone hconfig operation records time).answer hnow hboth fun _ => rfl
  | commit client time outcome extra =>
    obtain ⟨known, hfull, hconfig, halone⟩ := hknown hpath
    exact (commit_twins hfull halone hconfig time outcome extra).answer hnow hboth fun _ => rfl
  | rollback client time =>
    obtain ⟨known, hfull, hconfig, halone⟩ := hknown hpath
    exact (rollback_twins hfull halone hconfig time).answer hnow hboth fun _ => rfl
  | scheduleCompaction client =>
    obtain ⟨known, hfull, hconfig, halone⟩ := hknown hpath
    exact (scheduleCompaction_twins hfull halone hconfig).answer hnow hboth fun _ => rfl
  | close client => exact ⟨_, _, _, rfl, rfl, h⟩

end Operation

/-! ## 4. Histories -/

/-- The names that are the table's own. -/
def OwnName (path : String) (requests : List (Timestamp × Operation)) (name : String) : Prop :=
  ∃ shell ∈ shellsOf requests, shell.basePath = path ∧ shell.tableName = name

theorem mem_shellsOf {requests : List (Timestamp × Operation)} {now : Timestamp} {shell : TableShell}
    (h : (now, Operation.initTable shell) ∈ requests) : shell ∈ shellsOf requests :=
  List.mem_filterMap.mpr ⟨_, h, rfl⟩

/-- The one warehouse has the clients of a table alone, and the stores agree on the table. -/
structure Beside (path : String) (own : String → Prop) (full alone : Warehouse) : Prop where
  stores : Store.Agree path own full.store alone.store
  clients : alone.clients = clientsOn path full.clients

theorem play_cons {warehouse : Warehouse} {now : Timestamp} {operation : Operation} {w' : World Warehouse}
    {reply : Except Failure Reply} {rest : List (Timestamp × Operation)}
    (hrun : (perform operation).runIn { now, state := warehouse } = (reply, w')) :
    warehouse.play ((now, operation) :: rest) =
      (Event.of operation { now, state := warehouse } reply w' :: (w'.state.play rest).1, (w'.state.play rest).2) := by
  rw [Warehouse.play, hrun]

theorem repliesOn_cons {path : String} {paths : List String} {operation : Operation} {w w' : World Warehouse}
    {reply : Except Failure Reply} {rest : List Event} :
    repliesOn path paths (Event.of operation w reply w' :: rest) =
      if operation.path? paths = some path then
        reply.map (Reply.renumber (placeAmong path paths)) :: repliesOn path (paths ++ operation.newPaths) rest
      else repliesOn path (paths ++ operation.newPaths) rest :=
  rfl

/-- Two histories side by side: the one is the other with the operations on one table alone. -/
theorem Beside.play {path : String} {own : String → Prop} {full alone : Warehouse}
    {requests : List (Timestamp × Operation)} (h : Beside path own full alone)
    (hown : ∀ request ∈ requests, ∀ shell, request.2 = .initTable shell →
      (own shell.tableName ↔ shell.basePath = path)) :
    (alone.play (requestsOn path (pathsOf full.clients) requests)).1.map (·.reply) =
        repliesOn path (pathsOf full.clients) (full.play requests).1 ∧
      Beside path own (full.play requests).2 (alone.play (requestsOn path (pathsOf full.clients) requests)).2 := by
  induction requests generalizing full alone with
  | nil => exact ⟨rfl, h⟩
  | cons request rest ih =>
    obtain ⟨now, operation⟩ := request
    have hrest : ∀ request ∈ rest, ∀ shell, request.2 = .initTable shell →
        (own shell.tableName ↔ shell.basePath = path) :=
      fun request hrequest => hown request (List.mem_cons_of_mem _ hrequest)
    have hfirst : ∀ shell, operation = .initTable shell → (own shell.tableName ↔ shell.basePath = path) :=
      hown _ List.mem_cons_self
    let w : World Warehouse := { now, state := full }
    let v : World Warehouse := { now, state := alone }
    by_cases hpath : operation.path? (pathsOf full.clients) = some path
    · have hname : ∀ shell, operation = .initTable shell → own shell.tableName := by
        rintro shell rfl
        exact (hfirst shell rfl).mpr (by simpa [Operation.path?] using hpath)
      have halike : Alike path own (placeAmong path (pathsOf full.clients)) w v operation _ :=
        perform_alike rfl hpath hname h.clients h.stores
      obtain ⟨reply, w', v', hw, hv, hagree⟩ := halike
      have hclients : v'.state.clients = clientsOn path w'.state.clients := by
        rw [perform_clients hv, perform_clients hw, clientsOn_clientsAfter hpath]
        exact congrArg (fun clients => Operation.clientsAfter clients _) h.clients
      have hpaths : pathsOf w'.state.clients = pathsOf full.clients ++ operation.newPaths := by
        rw [perform_clients hw, pathsOf_clientsAfter]
      obtain ⟨hreplies, hbeside⟩ := ih ⟨hagree, hclients⟩ hrest
      rw [hpaths] at hreplies hbeside
      rw [play_cons hw, requestsOn, if_pos hpath, play_cons hv, repliesOn_cons, if_pos hpath]
      exact ⟨congrArg _ hreplies, hbeside⟩
    · have hname : ∀ shell, operation = .initTable shell → ¬own shell.tableName := by
        rintro shell rfl hown
        exact hpath (congrArg some ((hfirst shell rfl).mp hown))
      obtain ⟨reply, w', hw⟩ : ∃ reply w', (perform operation).runIn w = (reply, w') := ⟨_, _, rfl⟩
      have hclients : alone.clients = clientsOn path w'.state.clients := by
        rw [perform_clients hw, clientsOn_clientsAfter_elsewhere hpath]
        exact h.clients
      have hpaths : pathsOf w'.state.clients = pathsOf full.clients ++ operation.newPaths := by
        rw [perform_clients hw, pathsOf_clientsAfter]
      obtain ⟨hreplies, hbeside⟩ := ih ⟨perform_elsewhere hw hpath hname h.stores, hclients⟩ hrest
      rw [hpaths] at hreplies hbeside
      rw [play_cons hw, requestsOn, if_neg hpath, repliesOn_cons, if_neg hpath]
      exact ⟨hreplies, hbeside⟩

/-- **Tables do not influence each other.** Whatever is asked of other tables in between, and under whatever instant
times and record keys, every operation on a table answers as it does without them, and the table ends up with the same
shell, instants, staged rows and visible records. -/
theorem tables_apart (path : String) (store : Store) (requests : List (Timestamp × Operation))
    (hnames : NamesApart path requests) :
    let full := Warehouse.play { store } requests
    let alone := Warehouse.play { store } (requestsOn path [] requests)
    alone.1.map (·.reply) = repliesOn path [] full.1 ∧
      alone.2.store.table? path = full.2.store.table? path ∧
      alone.2.store.instantsOf path = full.2.store.instantsOf path ∧
      alone.2.store.stagedOf path = full.2.store.stagedOf path ∧
      alone.2.store.recordsOf path = full.2.store.recordsOf path := by
  have hstart : Beside path (OwnName path requests) { store } { store } := ⟨⟨rfl, fun _ _ => Iff.rfl⟩, rfl⟩
  have hown : ∀ request ∈ requests, ∀ shell, request.2 = .initTable shell →
      (OwnName path requests shell.tableName ↔ shell.basePath = path) := by
    rintro ⟨now, operation⟩ hrequest shell rfl
    have hmem := mem_shellsOf hrequest
    constructor
    · rintro ⟨own, hown, hpath, hname⟩
      by_contra hne
      exact hnames own hown shell hmem hpath hne hname
    · exact fun hpath => ⟨shell, hmem, hpath, rfl⟩
  obtain ⟨hreplies, hbeside⟩ := hstart.play hown
  exact ⟨hreplies, Store.shown_of_part_eq hbeside.stores.part⟩

/-- Two tables with clients of their own, who start at one moment, write under one instant time and one key, and end
differently. -/
def sampleNeighbours : List (Timestamp × Operation) :=
  let users : WriteConfig := { basePath := "/t/users", tableName := "users", tableType := .copyOnWrite }
  let events : WriteConfig := { basePath := "/t/events", tableName := "events", tableType := .mergeOnRead }
  let time := some (sampleClock 10).instantTime
  [(sampleClock 0, .initTable ⟨"/t/users", "users", .copyOnWrite, "", "archived", none⟩),
   (sampleClock 1, .initTable ⟨"/t/events", "events", .mergeOnRead, "", "archived", none⟩),
   (sampleClock 2, .newClient users),
   (sampleClock 3, .newClient events),
   (sampleClock 10, .startCommit 0),
   (sampleClock 10, .startCommit 1),
   (sampleClock 11, .write 0 .upsert [sampleRecord "a" "theirs"] time),
   (sampleClock 12, .write 1 .upsert [sampleRecord "a" "ours"] time),
   (sampleClock 13, .rollback 0 time),
   (sampleClock 14, .commit 1 time ⟨[]⟩ []),
   (sampleClock 15, .close 0),
   (sampleClock 20, .startCommit 1),
   (sampleClock 21, .write 1 .insert [sampleRecord "b" "late"] (some (sampleClock 20).instantTime))]

/-- The rollback of the neighbour leaves the commit under the same time alone. -/
theorem sample_tables_apart : NamesApart "/t/events" sampleNeighbours ∧
    let full := Warehouse.play { store := {} } sampleNeighbours
    let alone := Warehouse.play { store := {} } (requestsOn "/t/events" [] sampleNeighbours)
    (full.1.length = 13 ∧ alone.1.length = 7 ∧
      (full.2.store.instants.map fun row => (row.basePath, row.time, row.state)) =
        [("/t/users", "20250101000010000", .rolledBack), ("/t/events", "20250101000010000", .completed),
         ("/t/events", "20250101000020000", .inflight)] ∧
      (alone.2.store.records.map fun row => (row.recordKey, row.commitTime)) = [("a", "20250101000010000")]) ∧
    alone.1.map (·.reply) = repliesOn "/t/events" [] full.1 ∧
    alone.2.store.table? "/t/events" = full.2.store.table? "/t/events" ∧
    alone.2.store.instantsOf "/t/events" = full.2.store.instantsOf "/t/events" ∧
    alone.2.store.stagedOf "/t/events" = full.2.store.stagedOf "/t/events" ∧
    alone.2.store.recordsOf "/t/events" = full.2.store.recordsOf "/t/events" := by
  have hnames : NamesApart "/t/events" sampleNeighbours := by decide
  exact ⟨hnames, by decide +kernel, tables_apart "/t/events" {} sampleNeighbours hnames⟩

end TableSync.Warehouse
