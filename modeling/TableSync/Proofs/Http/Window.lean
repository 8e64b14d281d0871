/-
  TableSync/Proofs/Http/Window.lean
  =================================
  **Nothing lost and nothing twice** — what fetching from a service of pages
  comes to.

  A fetch answers exactly the records between the checkpoint that it was given
  and the one that it hands out, and moves on whenever there is something
  newer.  Fetching again and again, each time from the checkpoint handed out
  last, therefore reads every record exactly once, whatever the limits are.
-/
import Mathlib
import TableSync.Proofs.Http.Service

namespace TableSync.Http

variable {σ : Type} {api : PagedApi} {transport : Transport σ} {records : List Record}

/-! ## 1. A window -/

/-- What a window holds of what is newer than its checkpoint. -/
structure Window (api : PagedApi) (limit : Int) (newer kept : List Record) : Prop where
  cut : ∃ left, api.Cut newer kept left
  filled : kept = [] → newer = []
  bounded : (kept.length : Int) ≤ limit ∨ ∃ t, ∀ record ∈ kept, api.timestamp record = t

theorem Window.of_perm {limit : Int} {newer newer' kept : List Record} (h : Window api limit newer kept)
    (hperm : newer.Perm newer') : Window api limit newer' kept := by
  obtain ⟨left, hcut⟩ := h.cut
  refine ⟨⟨left, hcut.of_perm (.refl _) hperm⟩, fun hnone => ?_, h.bounded⟩
  rw [h.filled hnone] at hperm
  exact hperm.nil_eq.symm

/-- A window of one timestamp, the least of all. -/
theorem window_through {limit : Int} {newer kept : List Record} {boundary : String}
    (hkept : kept.Perm (newer.filter fun r => decide (api.timestamp r ≤ boundary)))
    (hthere : ∃ record ∈ newer, api.timestamp record = boundary)
    (hleast : ∀ record ∈ newer, boundary ≤ api.timestamp record) : Window api limit newer kept := by
  obtain ⟨left, hcut⟩ := @PagedApi.cut_upTo api boundary newer [] (by simp)
  rw [List.append_nil] at hcut
  refine ⟨⟨left, hcut.of_perm hkept.symm (.refl _)⟩, fun hnone => ?_, .inr ⟨boundary, fun record hrecord => ?_⟩⟩
  · obtain ⟨first, hfirst, hboundary⟩ := hthere
    have hmem : first ∈ newer.filter fun r => decide (api.timestamp r ≤ boundary) :=
      List.mem_filter.2 ⟨hfirst, by simp [hboundary]⟩
    rw [← hkept.mem_iff, hnone] at hmem
    exact absurd hmem List.not_mem_nil
  · obtain ⟨hread, hle⟩ := List.mem_filter.1 (hkept.mem_iff.1 hrecord)
    exact Std.le_antisymm (of_decide_eq_true hle) (hleast record hread)

/-- What a window holds that ends in one of the ways, of all that is newer than its checkpoint. -/
def Gives (api : PagedApi) (newer : List Record) : PagedApi.Ending → List Record → Prop
  | .upTo records, kept => kept = records
  | .through boundary, kept => kept.Perm (newer.filter fun r => decide (api.timestamp r ≤ boundary))

namespace Paging

variable {since : Option String} (paging : Paging api transport since)

/-- Where a reading within a limit stops: after the page `number + 1`, which it needed, with the records of the pages
so far in the order of their timestamps. -/
structure Stop (limit : Int) (number : Nat) (more : Bool) (read : List Record) : Prop where
  perm : read.Perm (paging.pages.take (number + 1)).flatten
  sorted : read.Pairwise fun a b => api.timestamp a ≤ api.timestamp b
  word : paging.word number more
  short : ((paging.pages.take number).flatten.length : Int) < limit
  enough : more = true → limit ≤ read.length
  done : more = false → (paging.pages.drop (number + 1)).flatten = []

variable {paging} {limit : Int} {number : Nat} {more : Bool} {read kept : List Record}

theorem Stop.perm_all (h : paging.Stop limit number more read) :
    (read ++ (paging.pages.drop (number + 1)).flatten).Perm paging.pages.flatten := by
  have hall := h.perm.append_right (paging.pages.drop (number + 1)).flatten
  rwa [← List.flatten_append, List.take_append_drop] at hall

theorem Stop.le_unseen (h : paging.Stop limit number more read) :
    ∀ a ∈ read, ∀ b ∈ (paging.pages.drop (number + 1)).flatten, api.timestamp a ≤ api.timestamp b := by
  intro a ha b hb
  obtain ⟨earlier, hearlier, ha⟩ := List.mem_flatten.1 (h.perm.mem_iff.1 ha)
  obtain ⟨later, hlater, hb⟩ := List.mem_flatten.1 hb
  have hordered := paging.ordered
  rw [← List.take_append_drop (number + 1) paging.pages, List.pairwise_append] at hordered
  exact hordered.2.2 earlier hearlier later hlater a ha b hb

/-- A timestamp that fills the window is the least of all that is newer, not only of what was read. -/
theorem Stop.boundary (h : paging.Stop limit number more read) {boundary : String}
    (hends : api.Ends limit more read (.through boundary)) :
    (∃ record ∈ paging.pages.flatten, api.timestamp record = boundary) ∧
      ∀ record ∈ paging.pages.flatten, boundary ≤ api.timestamp record := by
  obtain ⟨⟨first, hfirst, hboundary⟩, hleast⟩ := hends.boundary
  refine ⟨⟨first, h.perm_all.mem_iff.1 (List.mem_append_left _ hfirst), hboundary⟩, ?_⟩
  intro record hrecord
  rcases List.mem_append.1 (h.perm_all.mem_iff.2 hrecord) with hread | hunread
  · exact hleast record hread
  · rw [← hboundary]
    exact h.le_unseen first hfirst record hunread

/-- However a reading ends, what it gives is a window of all that is newer. -/
theorem Stop.window (h : paging.Stop limit number more read) {ending : PagedApi.Ending}
    (hends : api.Ends limit more read ending) (hgives : Gives api paging.pages.flatten ending kept) :
    Window api limit paging.pages.flatten kept := by
  cases ending with
  | upTo records =>
    obtain rfl : kept = records := hgives
    obtain ⟨⟨left, hcut⟩, hbound, hfilled⟩ := hends.cut h.sorted h.done h.le_unseen
    exact (Window.mk ⟨left, hcut⟩ hfilled (.inl hbound)).of_perm h.perm_all
  | through boundary =>
    obtain ⟨hthere, hleast⟩ := h.boundary hends
    exact window_through hgives hthere hleast

variable (paging)

theorem ofExcept_recordsOf {progress : PagedApi.Progress} {pages : List (List Record)} {read : List Record}
    (h : Seen pages read progress) :
    (Effect.ofExcept (PagedApi.recordsOf progress.items) : Effect σ (List Record)) = pure read := by
  rw [h.items, PagedApi.recordsOf_objects]
  rfl

/-- A timestamp that fills the window is read to its end. -/
theorem leads_readThrough {read : List Record} {progress : PagedApi.Progress} (hseen : Seen paging.pages read progress)
    (boundary : String) :
    Effect.Leads paging.steady (api.readThrough transport since boundary progress)
      (fun result s => Gives api paging.pages.flatten (.through boundary) result.2 ∧ paging.steady s)
      (fun _ _ => False) := by
  unfold PagedApi.readThrough
  refine (paging.leads_advanceWhile (fun read => read.all fun r => decide (api.timestamp r ≤ boundary))
    (fun read => ?_) hseen).bind fun reached => Effect.leads_of_fact ?_
  · rw [PagedApi.allWithin, PagedApi.recordsOf_objects]
    rfl
  rintro ⟨all, -, hall, hstop, -⟩
  rw [ofExcept_recordsOf hall]
  refine Effect.leads_pure fun s hs => ⟨?_, hs⟩
  -- what was not seen comes after a timestamp that is later than the boundary
  have hunseen : (paging.pages.drop reached.page).flatten.filter (fun r => decide (api.timestamp r ≤ boundary)) = [] := by
    refine List.filter_eq_nil_iff.2 fun record hrecord => ?_
    rw [decide_eq_true_eq, Std.not_le]
    by_cases hmore : reached.more = true
    · obtain ⟨a, ha, hlater⟩ : ∃ a ∈ all, boundary < api.timestamp a := by simpa using hstop hmore
      exact Std.lt_of_lt_of_le hlater (hall.le_unseen paging.ordered a ha record hrecord)
    · rw [hall.unseen_of_ended (by simpa using hmore)] at hrecord
      exact absurd hrecord List.not_mem_nil
  have hperm := hall.perm_all.filter fun r => decide (api.timestamp r ≤ boundary)
  rw [List.filter_append, hunseen, List.append_nil] at hperm
  exact (PagedApi.sorted_perm _).trans hperm

theorem leads_readWindow (hlimit : 1 ≤ limit) :
    Effect.Leads paging.steady (api.readWindow transport since limit)
      (fun result s => (∃ number more read ending, paging.Stop limit number more read ∧
        api.Ends limit more read ending ∧ Gives api paging.pages.flatten ending result.2) ∧ paging.steady s)
      (fun _ _ => False) := by
  unfold PagedApi.readWindow
  refine (paging.leads_advanceWhile (fun read => decide ((read.length : Int) < limit))
    (fun read => by rw [List.length_map]) (seen_nothing _)).bind fun reached => Effect.leads_of_fact ?_
  rintro ⟨all, -, hall, hstop, hlast⟩
  rw [ofExcept_recordsOf hall, pure_bind]
  -- nothing is never enough, so there is a last page
  obtain ⟨number, before, hpage, hbefore, hshort, hword⟩ : paging.Wanted (fun read => decide ((read.length : Int) < limit))
      all reached := by
    rcases hlast with ⟨rfl, rfl⟩ | hwanted
    · have hnever := hstop rfl
      simp only [List.length_nil, decide_eq_false_iff_not] at hnever
      omega
    · exact hwanted
  have hseen : Seen paging.pages (api.sorted all) { reached with items := (api.sorted all).map .object } :=
    ⟨rfl, (PagedApi.sorted_perm all).trans hall.perm, hall.onward, hall.ended⟩
  have hcount := hall.perm.length_eq
  rw [hpage, flatten_take_succ, hbefore, List.length_append, List.length_append] at hcount
  have stop : paging.Stop limit number reached.more (api.sorted all) := by
    refine ⟨hpage ▸ hseen.perm, PagedApi.pairwise_sorted all, hword, ?_, ?_, hpage ▸ hseen.unseen_of_ended⟩
    · rw [decide_eq_true_eq] at hshort
      omega
    · intro hmore
      rw [(PagedApi.sorted_perm all).length_eq]
      simpa using hstop hmore
  obtain ⟨ending, hending, hends⟩ := PagedApi.ending_ends stop.sorted hlimit stop.enough
  show Effect.Leads _ (Effect.ofExcept (api.ending limit reached.more (api.sorted all)) >>= _) _ _
  rw [hending]
  cases ending with
  | upTo kept => exact Effect.leads_pure fun s hs => ⟨⟨number, _, _, _, stop, hends, rfl⟩, hs⟩
  | through boundary =>
    exact (Effect.leads_log _ _ _).bind fun _ => (paging.leads_readThrough hseen boundary).weaken (fun _ hs => hs)
      (fun _ _ h => ⟨⟨number, _, _, _, stop, hends, h.1⟩, h.2⟩) fun _ _ h => h

theorem leads_fetch (hlimit : 1 ≤ limit) :
    Effect.Leads paging.steady (api.fetch transport since limit)
      (fun batch s => (∃ kept, batch = ⟨some kept, (api.latest? kept).orElse fun _ => since, api.provider⟩ ∧
        ∃ number more read ending, paging.Stop limit number more read ∧ api.Ends limit more read ending ∧
          Gives api paging.pages.flatten ending kept) ∧ paging.steady s)
      (fun _ _ => False) := by
  unfold PagedApi.fetch
  refine (paging.leads_readWindow hlimit).bind fun result => Effect.leads_of_fact fun hresult => ?_
  exact (Effect.leads_log _ _ _).bind fun _ => Effect.leads_pure fun s hs => ⟨⟨result.2, rfl, hresult⟩, hs⟩

end Paging

/-! ## 2. A fetch -/

/-- What a fetch answers that is given a checkpoint and hands out another one. -/
structure Fetched (api : PagedApi) (records : List Record) (limit : Int) (since reached : Option String)
    (kept : List Record) : Prop where
  /-- The records newer than the one and no newer than the other. -/
  between : kept.Perm (records.filter fun record => api.isAfter since record && !api.isAfter reached record)
  onward : (∃ record ∈ records, api.isAfter since record = true) →
    kept ≠ [] ∧ ∃ next, reached = some next ∧ ∀ last, since = some last → last < next
  ended : (∀ record ∈ records, api.isAfter since record = false) → kept = [] ∧ reached = since
  bounded : (kept.length : Int) ≤ limit ∨ ∃ t, ∀ record ∈ kept, api.timestamp record = t

theorem Window.fetched {limit : Int} {newer kept : List Record} {since : Option String}
    (h : Window api limit newer kept) (hnewer : newer.Perm (records.filter (api.isAfter since)))
    (hstamped : ∀ record ∈ records, api.Stamped record) :
    Fetched api records limit since ((api.latest? kept).orElse fun _ => since) kept := by
  by_cases hnone : kept = []
  · subst hnone
    rw [h.filled rfl] at hnewer
    have hnever : ∀ record ∈ records, api.isAfter since record = false := by
      simpa using List.filter_eq_nil_iff.1 hnewer.nil_eq.symm
    have hreached : ((api.latest? []).orElse fun _ => since) = since := rfl
    rw [hreached]
    exact ⟨by simp, fun ⟨record, hmem, hafter⟩ => absurd (hnever record hmem) (by simp [hafter]),
      fun _ => ⟨rfl, rfl⟩, h.bounded⟩
  · obtain ⟨left, hcut⟩ := h.cut
    have hsub : ∀ record ∈ kept, record ∈ records ∧ api.isAfter since record = true := by
      intro record hrecord
      exact List.mem_filter.1 (hnewer.mem_iff.1 (hcut.perm.mem_iff.1 (List.mem_append_left _ hrecord)))
    obtain ⟨last, hlast, hlatest, hle⟩ :=
      PagedApi.latest?_of_ne_nil (fun record hrecord => hstamped record (hsub record hrecord).1) hnone
    rw [hlatest]
    refine ⟨?_, fun _ => ⟨hnone, _, rfl, ?_⟩, fun hnever => ?_, h.bounded⟩
    · have hperm := (hcut.perm_filter hlast hle).trans (hnewer.filter _)
      rw [List.filter_filter] at hperm
      simpa [Bool.and_comm] using hperm
    · rintro checkpoint rfl
      exact PagedApi.isAfter_some.1 (hsub last hlast).2
    · obtain ⟨hmem, hafter⟩ := hsub last hlast
      exact absurd (hnever last hmem) (by simp [hafter])

namespace Service

variable (service : Service api transport records)

theorem leads_fetch (since : Option String) {limit : Int} (hlimit : 1 ≤ limit) :
    Effect.Leads service.steady (api.fetch transport since limit)
      (fun batch s => (∃ kept, batch = ⟨some kept, batch.checkpoint, api.provider⟩ ∧
        Fetched api records limit since batch.checkpoint kept) ∧ service.steady s)
      (fun _ _ => False) := by
  refine ((service.paging since).leads_fetch hlimit).weaken (fun _ hs => hs) ?_ fun _ _ h => h
  rintro batch s ⟨⟨kept, rfl, number, more, read, ending, hstop, hends, hgives⟩, hs⟩
  exact ⟨⟨kept, rfl, (hstop.window hends hgives).fetched (service.newer since) service.stamped⟩, hs⟩

end Service

/-! ## 3. Fetching in turn -/

/-- Fetch once for each limit, each time from the checkpoint that was handed out before. -/
def PagedApi.fetchInTurn (api : PagedApi) (transport : Transport σ) :
    List Int → Option String → Effect σ (List Record × Option String)
  | [], since => return ([], since)
  | limit :: limits, since => do
    let batch ← api.fetch transport since limit
    let (later, reached) ← api.fetchInTurn transport limits batch.checkpoint
    return (batch.data.getD [] ++ later, reached)

/-- What was read between two checkpoints, and what is left after the second one, are together what is
newer than the first one. -/
structure Covered (api : PagedApi) (records : List Record) (since reached : Option String)
    (read : List Record) : Prop where
  perm : (read ++ records.filter (api.isAfter reached)).Perm (records.filter (api.isAfter since))
  later : ∀ record, api.isAfter reached record = true → api.isAfter since record = true

theorem covered_nothing (since : Option String) : Covered api records since since [] :=
  ⟨.refl _, fun _ h => h⟩

theorem Covered.trans {since middle reached : Option String} {read later : List Record}
    (first : Covered api records since middle read) (second : Covered api records middle reached later) :
    Covered api records since reached (read ++ later) := by
  refine ⟨?_, fun record h => first.later record (second.later record h)⟩
  rw [List.append_assoc]
  exact (second.perm.append_left read).trans first.perm

/-- What is newer than a checkpoint is shared out by a later one. -/
theorem perm_between {since reached : Option String}
    (h : ∀ record, api.isAfter reached record = true → api.isAfter since record = true) :
    (records.filter (fun record => api.isAfter since record && !api.isAfter reached record) ++
      records.filter (api.isAfter reached)).Perm (records.filter (api.isAfter since)) := by
  have hafter : (records.filter (api.isAfter since)).filter (api.isAfter reached) =
      records.filter (api.isAfter reached) := by
    rw [List.filter_filter]
    refine List.filter_congr fun record _ => ?_
    cases hreached : api.isAfter reached record with
    | true => rw [h record hreached, Bool.and_true]
    | false => rw [Bool.false_and]
  have hbefore : (records.filter (api.isAfter since)).filter (fun record => !api.isAfter reached record) =
      records.filter fun record => api.isAfter since record && !api.isAfter reached record := by
    rw [List.filter_filter]
    exact List.filter_congr fun record _ => Bool.and_comm _ _
  have hsplit := List.filter_append_perm (api.isAfter reached) (records.filter (api.isAfter since))
  rw [hafter, hbefore] at hsplit
  exact List.perm_append_comm.trans hsplit

theorem Covered.between {since reached : Option String} {read : List Record}
    (h : Covered api records since reached read) :
    read.Perm (records.filter fun record => api.isAfter since record && !api.isAfter reached record) :=
  (List.perm_append_right_iff _).1 (h.perm.trans (perm_between h.later).symm)

theorem Fetched.covered {limit : Int} {since reached : Option String} {kept : List Record}
    (h : Fetched api records limit since reached kept) : Covered api records since reached kept := by
  have hlater : ∀ record, api.isAfter reached record = true → api.isAfter since record = true := by
    intro record hafter
    by_cases hnewer : ∃ record ∈ records, api.isAfter since record = true
    · obtain ⟨-, next, rfl, hnext⟩ := h.onward hnewer
      cases since with
      | none => rfl
      | some last =>
        rw [PagedApi.isAfter_some] at hafter ⊢
        exact Std.lt_trans (hnext last rfl) hafter
    · obtain ⟨-, rfl⟩ := h.ended (by simpa using hnewer)
      exact hafter
  exact ⟨(h.between.append_right _).trans (perm_between hlater), hlater⟩

namespace Service

variable (service : Service api transport records)

theorem leads_fetchInTurn {limits : List Int} (hlimits : ∀ limit ∈ limits, 1 ≤ limit) (since : Option String) :
    Effect.Leads service.steady (api.fetchInTurn transport limits since)
      (fun result s => (Covered api records since result.2 result.1 ∧
        ((records.filter (api.isAfter since)).length ≤ limits.length →
          records.filter (api.isAfter result.2) = [])) ∧ service.steady s)
      (fun _ _ => False) := by
  induction limits generalizing since with
  | nil =>
    refine Effect.leads_pure fun s hs => ⟨⟨covered_nothing since, fun hlen => ?_⟩, hs⟩
    exact List.eq_nil_of_length_eq_zero (Nat.le_zero.1 hlen)
  | cons limit limits ih =>
    rw [PagedApi.fetchInTurn]
    obtain ⟨hlimit, hlimits⟩ := List.forall_mem_cons.1 hlimits
    refine (service.leads_fetch since hlimit).bind fun batch => Effect.leads_of_fact ?_
    rintro ⟨kept, hbatch, hfetched⟩
    refine (ih hlimits batch.checkpoint).bind fun result => Effect.leads_of_fact ?_
    rintro ⟨hcovered, hdone⟩
    refine Effect.leads_pure fun s hs => ⟨⟨?_, fun hlen => hdone ?_⟩, hs⟩
    · rw [hbatch]
      exact hfetched.covered.trans hcovered
    · -- a fetch with something newer to read leaves less of it
      have hlength := hfetched.covered.perm.length_eq
      by_cases hnewer : ∃ record ∈ records, api.isAfter since record = true
      · have hkept := List.length_pos_iff.2 (hfetched.onward hnewer).1
        simp only [List.length_append, List.length_cons] at hlength hlen
        omega
      · have hnever : ∀ record ∈ records, api.isAfter since record = false := by simpa using hnewer
        rw [(hfetched.ended hnever).2, List.filter_eq_nil_iff.2 (by simpa using hnever)]
        exact Nat.zero_le _

end Service

/-- **Nothing is lost and nothing comes twice.**  A fetch from a service in a steady state answers exactly
the records between its checkpoint and the next one, moves on if there is something newer, and keeps within
the limit unless all that it read is of one timestamp.  Fetching in turn reads what lies between the first
checkpoint and the last one, each record once; and everything newer, if there are enough turns. -/
theorem Service.nothing_lost (service : Service api transport records) (since : Option String) {limit : Int}
    (hlimit : 1 ≤ limit) {limits : List Int} (hlimits : ∀ next ∈ limits, 1 ≤ next) {w : World σ}
    (hsteady : service.steady w.state) :
    (∃ kept reached w', (api.fetch transport since limit).runIn w = (.ok ⟨some kept, reached, api.provider⟩, w') ∧
      service.steady w'.state ∧ Fetched api records limit since reached kept) ∧
    ∃ read reached w', (api.fetchInTurn transport limits since).runIn w = (.ok (read, reached), w') ∧
      service.steady w'.state ∧
      read.Perm (records.filter fun record => api.isAfter since record && !api.isAfter reached record) ∧
      (records.length ≤ limits.length → read.Perm (records.filter (api.isAfter since))) := by
  constructor
  · obtain ⟨batch, w', hrun, ⟨kept, hbatch, hfetched⟩, hw'⟩ := (service.leads_fetch since hlimit).returns hsteady
    rw [hbatch] at hrun
    exact ⟨kept, batch.checkpoint, w', hrun, hw', hfetched⟩
  · obtain ⟨⟨read, reached⟩, w', hrun, ⟨hcovered, hdone⟩, hw'⟩ :=
      (service.leads_fetchInTurn hlimits since).returns hsteady
    refine ⟨read, reached, w', hrun, hw', hcovered.between, fun henough => ?_⟩
    have hall := hcovered.perm
    rw [hdone (Nat.le_trans (List.length_filter_le _ _) henough), List.append_nil] at hall
    exact hall

/-- A record of the sample service. -/
def sampleRecord (name time : String) : Record := [("name", .text name), ("updated_at", .text time)]

/-- The bodies of the sample service: lists of one record, an object with two, and past the end empty lists. -/
def sampleBody (since : String) (page : Option String) : String :=
  if since < "1" then
    if page = some (toString 1) then "[\x7b\"name\": \"a\", \"updated_at\": \"1\"\x7d]"
    else if page = some (toString 2) then
      "\x7b\"data\": [\x7b\"name\": \"c\", \"updated_at\": \"2\"\x7d, \x7b\"name\": \"b\", \"updated_at\": \"1\"\x7d], " ++
        "\"has_next\": false\x7d"
    else "[]"
  else if since < "2" then
    if page = some (toString 1) then "[\x7b\"name\": \"c\", \"updated_at\": \"2\"\x7d]" else "[]"
  else "[]"

/-- A service that breaks every other connection. -/
def sampleTransport : Transport Bool := fun request => do
  if ← Effect.state then
    Effect.setState false
    let since := (Fields.get? request.params "since").getD ""
    return { status := 200, body := sampleBody since (Fields.get? request.params "page") }
  else
    Effect.setState true
    Effect.fail (.outside .networkFault "the connection was closed" false)

def sampleApi : PagedApi := { sourceName := "orders", url := "https://orders.example.com", pageSize := 1 }

def samplePages (since : Option String) : List (List Record) :=
  if since.getD "" < "1" then [[sampleRecord "a" "1"], [sampleRecord "c" "2", sampleRecord "b" "1"]]
  else if since.getD "" < "2" then [[sampleRecord "c" "2"]]
  else []

theorem sampleBody_shows (since : Option String) (number : Nat) :
    ∃ value, Json.read? (PagedApi.withoutMark (sampleBody (since.getD "") (some (toString (number + 1))))) =
      some value ∧ sampleApi.Shows ((samplePages since).getD number [])
        (decide ((samplePages since).length ≤ number + 1)) value := by
  have hpage : ∀ m n : Nat, some (toString m) = some (toString n) ↔ m = n := fun m n => by
    rw [Option.some_inj]
    exact Nat.repr_inj
  simp only [sampleBody, samplePages, hpage]
  by_cases hfirst : since.getD "" < "1"
  · simp only [if_pos hfirst]
    rcases number with _ | _ | number
    · exact ⟨.list [.object (sampleRecord "a" "1")], by cbv, .list fun _ => by decide⟩
    · exact ⟨.object [("data", .list [.object (sampleRecord "c" "2"), .object (sampleRecord "b" "1")]),
        ("has_next", .bool false)], by cbv, .fields rfl rfl⟩
    · exact ⟨.list [], by cbv, .list fun hlast => by simp at hlast⟩
  · simp only [if_neg hfirst]
    by_cases hsecond : since.getD "" < "2"
    · simp only [if_pos hsecond]
      rcases number with _ | number
      · exact ⟨.list [.object (sampleRecord "c" "2")], by cbv, .list fun _ => by decide⟩
      · exact ⟨.list [], by cbv, .list fun hlast => by simp at hlast⟩
    · simp only [if_neg hsecond]
      exact ⟨.list [], by cbv, .list fun hlast => by simp at hlast⟩


def sampleRecords : List Record := [sampleRecord "a" "1", sampleRecord "b" "1", sampleRecord "c" "2"]

theorem samplePages_perm (since : Option String) :
    (samplePages since).flatten.Perm (sampleRecords.filter (sampleApi.isAfter since)) := by
  rcases since with _ | checkpoint
  · exact .cons _ (.swap _ _ _)
  · have hone : ∀ name, sampleApi.isAfter (some checkpoint) (sampleRecord name "1") = decide (checkpoint < "1") :=
      fun _ => rfl
    have htwo : ∀ name, sampleApi.isAfter (some checkpoint) (sampleRecord name "2") = decide (checkpoint < "2") :=
      fun _ => rfl
    by_cases hfirst : checkpoint < "1"
    · have hsecond : checkpoint < "2" := String.lt_trans hfirst (by decide)
      simp only [samplePages, Option.getD_some, sampleRecords, List.filter_cons, hone, htwo, hfirst,
        hsecond, decide_true, if_true, List.filter_nil]
      exact .cons _ (.swap _ _ _)
    · by_cases hsecond : checkpoint < "2"
      · simp [samplePages, sampleRecords, hone, htwo, hfirst, hsecond]
      · simp [samplePages, sampleRecords, hone, htwo, hfirst, hsecond]

theorem sample_params (since : Option String) (number : Nat) :
    (Fields.get? (sampleApi.request since number).params "since").getD "" = since.getD "" ∧
      Fields.get? (sampleApi.request since number).params "page" = some (toString number) := by
  constructor
  · rcases since with _ | checkpoint
    · rfl
    · by_cases hnone : checkpoint.isEmpty = true
      · simp [PagedApi.request, Fields.get?, String.isEmpty_iff.1 hnone]
      · simp [PagedApi.request, Fields.get?, hnone]
  · simp [PagedApi.request, Fields.get?]

theorem leads_sampleTransport (request : Request) (rested : Bool) :
    Effect.Leads (fun s => s = rested) (sampleTransport request)
      (fun response _ => rested = true ∧ response.isSuccess = true ∧
        response.body = sampleBody ((Fields.get? request.params "since").getD "") (Fields.get? request.params "page"))
      (fun failure s => rested = false ∧ s = true ∧ IsPassing failure) := by
  refine Effect.Leads.ofState ?_
  rintro s rfl
  cases s with
  | true => exact (Effect.leads_setState false).bind fun _ => Effect.leads_pure fun t ht => ⟨rfl, rfl, rfl⟩
  | false => exact (Effect.leads_setState true).bind fun _ => Effect.leads_fail fun t ht => ⟨rfl, ht, .inr rfl⟩

/-- The second attempt is answered. -/
theorem sampleTransport_delivers {request : Request} {Q : Response → Bool → Prop} (left : Nat) (rested : Bool)
    (h : ∀ response s, response.body = sampleBody ((Fields.get? request.params "since").getD "")
      (Fields.get? request.params "page") → Q response s) :
    DeliversWithin sampleApi sampleTransport request Q (left + 2) 0 rested := by
  have hrested : ∀ s, s = true → DeliversWithin sampleApi sampleTransport request Q (left + 1) 1 s := by
    rintro s rfl
    refine ⟨_, rfl, (leads_sampleTransport request true).weaken (fun _ hs => hs) ?_ ?_⟩
    · exact fun response s ⟨_, hsuccess, hbody⟩ => .inl ⟨hsuccess, h response s hbody⟩
    · exact fun _ _ ⟨hfalse, _⟩ => absurd hfalse (by decide)
  refine ⟨_, rfl, (leads_sampleTransport request rested).weaken (fun _ hs => hs) ?_ ?_⟩
  · exact fun response s ⟨_, hsuccess, hbody⟩ => .inl ⟨hsuccess, h response s hbody⟩
  · exact fun failure s ⟨_, hs, hpassing⟩ => ⟨⟨hpassing, sleepable_double _⟩, hrested s hs⟩

/-- The sample service: two records of one timestamp on two pages, in lists and in an object, over a
transport that has to be asked twice. -/
def sampleService : Service sampleApi sampleTransport sampleRecords where
  steady := fun _ => True
  pages := samplePages
  stamped := by
    intro record hrecord
    simp only [sampleRecords, List.mem_cons, List.not_mem_nil, or_false] at hrecord
    rcases hrecord with rfl | rfl | rfl <;> exact ⟨_, rfl, by decide⟩
  newer := samplePages_perm
  filled := by
    intro since page hpage
    unfold samplePages at hpage
    split at hpage <;> grind
  ordered := by
    intro since
    unfold samplePages
    split
    · decide
    · split <;> decide
  delivered := by
    intro since number s _
    refine sampleTransport_delivers 1 s fun response _ hbody => ⟨?_, trivial⟩
    rw [(sample_params since (number + 1)).1, (sample_params since (number + 1)).2] at hbody
    rw [PagedApi.Carries, hbody]
    exact sampleBody_shows since number

/-- Three turns of one record each read all of the sample service: the two records of one timestamp come
in one window. -/
theorem sample_nothing_lost :
    let w : World Bool := { now := ⟨0⟩, state := false }
    (∃ kept reached w', (sampleApi.fetch sampleTransport none 1).runIn w = (.ok ⟨some kept, reached, none⟩, w') ∧
      Fetched sampleApi sampleRecords 1 none reached kept) ∧
    ∃ read reached w', (sampleApi.fetchInTurn sampleTransport [1, 1, 1] none).runIn w = (.ok (read, reached), w') ∧
      read.Perm sampleRecords := by
  intro w
  obtain ⟨⟨kept, reached, w', hrun, -, hfetched⟩, read, last, v', hturns, -, -, hall⟩ :=
    @Service.nothing_lost _ _ _ _ sampleService none 1 (by decide) [1, 1, 1] (by decide) w trivial
  exact ⟨⟨kept, reached, w', hrun, hfetched⟩, read, last, v', hturns, hall (by decide)⟩

end TableSync.Http
