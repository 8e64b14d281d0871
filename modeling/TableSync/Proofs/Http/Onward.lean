/-
  TableSync/Proofs/Http/Onward.lean
  =================================
  **When the checkpoint moves** — answers in which some records have no
  timestamp.

  A record without a timestamp comes before all others and counts against the
  limit, but the next checkpoint is made without it.  So a batch of such records
  alone leaves the checkpoint where it was.  A `Paging` whose word on further
  pages is true moves the checkpoint in one of four cases (`MovesOn`): every
  record has a timestamp, or everything fits within the limit, or the records up
  to the earliest timestamp leave room, or they fill the limit exactly and no
  page is left unread.  In no other case it does, though the batch is not empty.
-/
import TableSync.Proofs.Http.Window

namespace TableSync.Http

variable {σ : Type} {api : PagedApi} {transport : Transport σ} {newer kept : List Record} {limit : Int}

/-! ## 1. The earliest timestamp -/

/-- The record has a timestamp, and none of those that have one is earlier. -/
structure Earliest (api : PagedApi) (records : List Record) (least : Record) : Prop where
  mem : least ∈ records
  stamped : api.timestamp least ≠ ""
  le : ∀ r ∈ records, api.timestamp r ≠ "" → api.timestamp least ≤ api.timestamp r

theorem exists_earliest {records : List Record} (h : ∃ r ∈ records, api.timestamp r ≠ "") :
    ∃ least, Earliest api records least := by
  obtain ⟨r, hr, hne⟩ := h
  cases hleast : (records.filter fun r => decide (api.timestamp r ≠ "")).argmin api.timestamp with
  | none =>
    have hmem : r ∈ records.filter fun r => decide (api.timestamp r ≠ "") := List.mem_filter.2 ⟨hr, decide_eq_true hne⟩
    rw [List.argmin_eq_none.1 hleast] at hmem
    exact absurd hmem List.not_mem_nil
  | some least =>
    obtain ⟨hmem, hstamped⟩ := List.mem_filter.1 (List.argmin_mem (Option.mem_def.2 hleast))
    refine ⟨least, hmem, of_decide_eq_true hstamped, ?_⟩
    intro other hother hne
    have hmem : other ∈ records.filter fun r => decide (api.timestamp r ≠ "") :=
      List.mem_filter.2 ⟨hother, decide_eq_true hne⟩
    exact List.le_of_mem_argmin hmem (Option.mem_def.2 hleast)

/-- How many records come no later than a timestamp, those without one included. -/
def upTo (api : PagedApi) (time : String) (records : List Record) : Nat :=
  records.countP fun r => decide (api.timestamp r ≤ time)

theorem upTo_append (time : String) (first second : List Record) :
    upTo api time (first ++ second) = upTo api time first + upTo api time second := List.countP_append

theorem upTo_of_all {time : String} {records : List Record} (h : ∀ r ∈ records, api.timestamp r ≤ time) :
    upTo api time records = records.length := by
  rw [upTo, List.countP_eq_length]
  intro r hr
  exact decide_eq_true (h r hr)

theorem upTo_pos {time : String} {records : List Record} {r : Record} (hr : r ∈ records) (h : api.timestamp r ≤ time) :
    0 < upTo api time records := by
  rw [upTo, List.countP_pos_iff]
  exact ⟨r, hr, decide_eq_true h⟩

/-! ## 2. What a window with a timestamp holds -/

/-- A window that holds a record with a timestamp holds everything up to the earliest one, within the limit if some
records have none. -/
theorem Window.upTo_le {least r : Record} (h : Window api limit newer kept) (hleast : Earliest api newer least)
    (hr : r ∈ kept) (hstamped : api.timestamp r ≠ "") (hblank : ∃ b ∈ newer, api.timestamp b = "") :
    upTo api (api.timestamp least) newer ≤ kept.length ∧ (kept.length : Int) ≤ limit := by
  obtain ⟨left, hcut⟩ := h.cut
  have hle : api.timestamp least ≤ api.timestamp r := by
    apply hleast.le r _ hstamped
    exact hcut.perm.mem_iff.1 (List.mem_append_left _ hr)
  constructor
  · have hnone : upTo api (api.timestamp least) left = 0 := by
      rw [upTo, List.countP_eq_zero]
      intro later hlater
      rw [decide_eq_true_eq, not_le]
      exact lt_of_le_of_lt hle (hcut.earlier r hr later hlater)
    have hcount : upTo api (api.timestamp least) (kept ++ left) = upTo api (api.timestamp least) newer :=
      hcut.perm.countP_eq _
    rw [upTo_append, hnone, Nat.add_zero] at hcount
    rw [← hcount]
    exact List.countP_le_length
  · rcases h.bounded with hbound | ⟨time, hsame⟩
    · exact hbound
    · -- a record without a timestamp is there as well, so there are two
      obtain ⟨b, hb, hnone⟩ := hblank
      rcases List.mem_append.1 (hcut.perm.mem_iff.2 hb) with hmem | hmem
      · rw [hsame r hr, ← hsame b hmem, hnone] at hstamped
        exact absurd rfl hstamped
      · have hearlier := hcut.earlier r hr b hmem
        rw [hnone] at hearlier
        exact absurd hearlier (not_lt.2 (PagedApi.empty_le _))

/-- With more to follow a window stays below the limit. -/
theorem PagedApi.Ends.length_lt {records : List Record} (h : api.Ends limit true records (.upTo kept)) :
    (kept.length : Int) < limit := by
  cases h with
  | all fits done => cases done
  | full split length done later => cases done
  | @before front rest last split length again earlier =>
    have hshort := List.length_filter_le (fun r => decide (api.timestamp r < api.timestamp last)) front
    omega

/-! ## 3. What moves the checkpoint -/

/-- The pages hold a record with a timestamp; and every record has one, or all of them fit within the limit, or those
up to the earliest timestamp leave room in it, or they fill it and it takes the last page to reach the limit. -/
def MovesOn (api : PagedApi) (limit : Int) (pages : List (List Record)) : Prop :=
  ∃ least, Earliest api pages.flatten least ∧
    ((∀ r ∈ pages.flatten, api.timestamp r ≠ "") ∨ (pages.flatten.length : Int) ≤ limit ∨
      (upTo api (api.timestamp least) pages.flatten : Int) < limit ∨
      (upTo api (api.timestamp least) pages.flatten : Int) = limit ∧ (pages.dropLast.flatten.length : Int) < limit)

/-- The checkpoint that a fetch hands out is set and after the one that it was given. -/
def Onward (since reached : Option String) : Prop := ∃ next, reached = some next ∧ ∀ last, since = some last → last < next

namespace Paging

variable {since : Option String} {paging : Paging api transport since} {number : Nat} {more : Bool} {read : List Record}

/-- What is said of whether more pages follow is true. -/
def Truthful (paging : Paging api transport since) : Prop :=
  ∀ number more, paging.word number more → more = decide (number + 1 < paging.pages.length)

theorem length_flatten_take_le (pages : List (List Record)) {m n : Nat} (h : m ≤ n) :
    (pages.take m).flatten.length ≤ (pages.take n).flatten.length := by
  induction h with
  | refl => exact Nat.le_refl _
  | step _ ih =>
    rw [flatten_take_succ, List.length_append]
    omega

/-- More is said to follow exactly if the limit is reached before the last page. -/
theorem Stop.more_iff (h : paging.Stop limit number more read) (htruthful : paging.Truthful) :
    more = true ↔ limit ≤ paging.pages.dropLast.flatten.length := by
  have hmore := htruthful number more h.word
  rw [List.dropLast_eq_take]
  constructor
  · intro honward
    rw [honward, eq_comm, decide_eq_true_eq] at hmore
    have hcount := length_flatten_take_le paging.pages (show number + 1 ≤ paging.pages.length - 1 by omega)
    have henough := h.enough honward
    rw [h.perm.length_eq] at henough
    omega
  · intro hreached
    by_contra hlast
    rw [Bool.eq_false_of_not_eq_true hlast, eq_comm, decide_eq_false_iff_not] at hmore
    have hcount := length_flatten_take_le paging.pages (show paging.pages.length - 1 ≤ number by omega)
    have hshort := h.short
    omega

/-- If more is said to follow, more follows. -/
theorem Stop.unseen_ne_nil (h : paging.Stop limit number more read) (htruthful : paging.Truthful)
    (hmore : more = true) : (paging.pages.drop (number + 1)).flatten ≠ [] := by
  have hlt := htruthful number more h.word
  rw [hmore, eq_comm, decide_eq_true_eq] at hlt
  rw [List.drop_eq_getElem_cons hlt, List.flatten_cons]
  intro hnone
  exact paging.filled _ (List.getElem_mem hlt) (List.append_eq_nil_iff.1 hnone).1

/-- The records that were read, taken apart at one of them, and those that were not. -/
theorem Stop.perm_split {front rest : List Record} {last : Record}
    (h : paging.Stop limit number more (front ++ last :: rest)) :
    paging.pages.flatten.Perm ((front ++ [last]) ++ (rest ++ (paging.pages.drop (number + 1)).flatten)) := by
  have hall := h.perm_all.symm
  rwa [List.append_cons, List.append_assoc] at hall

theorem Stop.last_le {front rest : List Record} {last : Record}
    (h : paging.Stop limit number more (front ++ last :: rest)) :
    ∀ r ∈ rest ++ (paging.pages.drop (number + 1)).flatten, api.timestamp last ≤ api.timestamp r := by
  intro r hr
  rcases List.mem_append.1 hr with hmem | hmem
  · exact (PagedApi.around h.sorted).2 r hmem
  · exact h.le_unseen last (by simp) r hmem

/-- If all of a full window comes no later than a timestamp, so many records do; and one more if a later one does. -/
theorem Stop.limit_le_upTo {front rest : List Record} {last : Record} {time : String}
    (h : paging.Stop limit number more (front ++ last :: rest)) (hlength : (front.length + 1 : Int) = limit)
    (hall : ∀ r ∈ front ++ [last], api.timestamp r ≤ time) :
    limit ≤ upTo api time paging.pages.flatten ∧
      ((∃ r ∈ rest ++ (paging.pages.drop (number + 1)).flatten, api.timestamp r ≤ time) →
        limit < upTo api time paging.pages.flatten) := by
  have hcount : upTo api time paging.pages.flatten = front.length + 1 +
      upTo api time (rest ++ (paging.pages.drop (number + 1)).flatten) := by
    rw [← List.length_singleton (a := last), ← List.length_append, ← upTo_of_all hall, ← upTo_append]
    exact h.perm_split.countP_eq _
  constructor
  · omega
  · rintro ⟨r, hr, hle⟩
    have hone := upTo_pos hr hle
    omega

/-- A window of records without a timestamp, though there are others: some have none, not all fit, those up to the
earliest timestamp leave no room, and if they fill the limit it is reached before the last page. -/
theorem Stop.of_blank (h : paging.Stop limit number more read) (htruthful : paging.Truthful)
    {ending : PagedApi.Ending} (hends : api.Ends limit more read ending)
    (hgives : Gives api paging.pages.flatten ending kept) (hblank : ∀ r ∈ kept, api.timestamp r = "") {least : Record}
    (hleast : Earliest api paging.pages.flatten least) :
    (∃ r ∈ paging.pages.flatten, api.timestamp r = "") ∧ limit < paging.pages.flatten.length ∧
      limit ≤ upTo api (api.timestamp least) paging.pages.flatten ∧
      (limit = upTo api (api.timestamp least) paging.pages.flatten →
        limit ≤ paging.pages.dropLast.flatten.length) := by
  have hlen : upTo api (api.timestamp least) paging.pages.flatten ≤ paging.pages.flatten.length :=
    List.countP_le_length
  have hnotKept : least ∉ kept := fun hmem => hleast.stamped (hblank least hmem)
  have hearly : ∀ r, api.timestamp r = "" → api.timestamp r ≤ api.timestamp least := by
    intro r hr
    rw [hr]
    exact PagedApi.empty_le _
  cases hends with
  | all fits done =>
    -- everything is kept, the earliest timestamp as well
    obtain rfl : kept = read := hgives
    have hall := h.perm_all
    rw [h.done done, List.append_nil] at hall
    exact absurd (hall.mem_iff.2 hleast.mem) hnotKept
  | @full front rest last split length done later =>
    obtain rfl : kept = front ++ [last] := hgives
    subst split
    -- what has a timestamp comes after the window, so that more than fills it comes up to the earliest
    have hrest : least ∈ rest ++ (paging.pages.drop (number + 1)).flatten := by
      rcases List.mem_append.1 (h.perm_split.mem_iff.1 hleast.mem) with hmem | hmem
      · exact absurd hmem hnotKept
      · exact hmem
    have hover := (h.limit_le_upTo length fun r hr => hearly r (hblank r hr)).2 ⟨least, hrest, le_refl _⟩
    refine ⟨⟨last, ?_, hblank last (by simp)⟩, by omega, by omega, fun hexact => by omega⟩
    exact h.perm_split.mem_iff.2 (by simp)
  | @before front rest last split length again earlier =>
    obtain rfl : kept = front.filter fun r => decide (api.timestamp r < api.timestamp last) := hgives
    subst split
    obtain ⟨first, hfirst, hlt⟩ := earlier
    have hnone : api.timestamp first = "" := hblank first (List.mem_filter.2 ⟨hfirst, decide_eq_true hlt⟩)
    have hthere : ∀ r ∈ front ++ [last], r ∈ paging.pages.flatten :=
      fun r hr => h.perm_split.mem_iff.2 (List.mem_append_left _ hr)
    -- the window ends at the earliest timestamp, for an earlier one would be kept
    have hlast : api.timestamp last ≤ api.timestamp least := by
      rcases List.mem_append.1 (h.perm_split.mem_iff.1 hleast.mem) with hmem | hmem
      · rcases List.mem_append.1 hmem with hfront | hself
        · exact not_lt.1 fun hless => hnotKept (List.mem_filter.2 ⟨hfront, decide_eq_true hless⟩)
        · rw [List.mem_singleton.1 hself]
      · exact h.last_le least hmem
    have hfull := h.limit_le_upTo length fun r hr => le_trans ((PagedApi.around h.sorted).1 r hr) hlast
    have hsame : (∃ r ∈ rest, api.timestamp r = api.timestamp last) →
        limit < upTo api (api.timestamp least) paging.pages.flatten := by
      rintro ⟨r, hr, heq⟩
      exact hfull.2 ⟨r, List.mem_append_left _ hr, heq ▸ hlast⟩
    refine ⟨⟨first, hthere first (List.mem_append_left _ hfirst), hnone⟩, ?_, hfull.1, fun hexact => ?_⟩
    · rcases again with hmore | hrest
      · have hunseen := List.length_pos_iff.2 (h.unseen_ne_nil htruthful hmore)
        have hcount := h.perm_split.length_eq
        simp only [List.length_append, List.length_singleton] at hcount
        omega
      · have hover := hsame hrest
        omega
    · rcases again with hmore | hrest
      · exact (h.more_iff htruthful).1 hmore
      · have hover := hsame hrest
        omega
  | @through front rest last split length least' =>
    subst split
    have hmem : last ∈ kept := by
      refine hgives.mem_iff.2 (List.mem_filter.2 ⟨h.perm_split.mem_iff.2 (by simp), ?_⟩)
      exact decide_eq_true (le_refl _)
    have hnone := hblank last hmem
    have hall : ∀ r ∈ front ++ [last], api.timestamp r = "" := by
      intro r hr
      exact le_antisymm (hnone ▸ (PagedApi.around h.sorted).1 r hr) (PagedApi.empty_le _)
    have hrest : least ∈ rest ++ (paging.pages.drop (number + 1)).flatten := by
      rcases List.mem_append.1 (h.perm_split.mem_iff.1 hleast.mem) with hmem | hmem
      · exact absurd (hall least hmem) hleast.stamped
      · exact hmem
    have hover := (h.limit_le_upTo length fun r hr => hearly r (hall r hr)).2 ⟨least, hrest, le_refl _⟩
    refine ⟨⟨last, ?_, hnone⟩, by omega, by omega, fun hexact => by omega⟩
    exact h.perm_split.mem_iff.2 (by simp)

/-- Exactly if the pages move the checkpoint on, the window holds a record with a timestamp. -/
theorem Stop.movesOn_iff (h : paging.Stop limit number more read) (htruthful : paging.Truthful)
    {ending : PagedApi.Ending} (hends : api.Ends limit more read ending)
    (hgives : Gives api paging.pages.flatten ending kept) :
    MovesOn api limit paging.pages ↔ ∃ r ∈ kept, api.timestamp r ≠ "" := by
  have hwindow := h.window hends hgives
  constructor
  · rintro ⟨least, hleast, hcase⟩
    by_contra hnone
    push Not at hnone
    obtain ⟨⟨b, hb, hblank⟩, hmany, hearly, hexact⟩ := h.of_blank htruthful hends hgives hnone hleast
    rcases hcase with hall | hfits | hroom | ⟨hfull, hlast⟩
    · exact hall b hb hblank
    · omega
    · omega
    · have hreached := hexact hfull.symm
      omega
  · rintro ⟨r, hr, hstamped⟩
    obtain ⟨left, hcut⟩ := hwindow.cut
    have hmem : r ∈ paging.pages.flatten := hcut.perm.mem_iff.1 (List.mem_append_left _ hr)
    obtain ⟨least, hleast⟩ := exists_earliest ⟨r, hmem, hstamped⟩
    refine ⟨least, hleast, ?_⟩
    by_cases hblank : ∃ b ∈ paging.pages.flatten, api.timestamp b = ""
    · obtain ⟨hcount, hbound⟩ := hwindow.upTo_le hleast hr hstamped hblank
      right; right
      rcases lt_or_eq_of_le (le_trans (Int.ofNat_le.2 hcount) hbound) with hroom | hfull
      · exact .inl hroom
      · -- a window that is full and has no more to follow took the last page to fill
        refine .inr ⟨hfull, ?_⟩
        by_contra hreached
        have hmore := (h.more_iff htruthful).2 (not_lt.1 hreached)
        subst hmore
        cases ending with
        | upTo records =>
          obtain rfl : kept = records := hgives
          have hshort := hends.length_lt
          omega
        | through boundary =>
          -- all that is kept has the least timestamp, which a record without one would have
          obtain ⟨b, hb, hnone⟩ := hblank
          have hleast := (h.boundary hends).2 b hb
          have hwithin := of_decide_eq_true (List.mem_filter.1 (hgives.mem_iff.1 hr)).2
          rw [hnone] at hleast
          exact absurd (le_antisymm (le_trans hwithin hleast) (PagedApi.empty_le _)) hstamped
    · left
      push Not at hblank
      exact hblank

variable (paging)

theorem leads_moves (htruthful : paging.Truthful)
    (hnewer : ∀ r ∈ paging.pages.flatten, api.timestamp r = "" ∨ api.isAfter since r = true) (hlimit : 1 ≤ limit) :
    Effect.Leads paging.steady (api.fetch transport since limit)
      (fun batch s => (∃ kept, batch = ⟨some kept, batch.checkpoint, api.provider⟩ ∧
        (kept = [] → paging.pages.flatten = []) ∧
        (Onward since batch.checkpoint ↔ MovesOn api limit paging.pages) ∧
        (¬ MovesOn api limit paging.pages → batch.checkpoint = since ∧ ∀ r ∈ kept, api.timestamp r = "")) ∧
        paging.steady s)
      (fun _ _ => False) := by
  refine (paging.leads_fetch hlimit).weaken (fun _ hs => hs) ?_ fun _ _ h => h
  rintro batch s ⟨⟨kept, rfl, number, more, read, ending, hstop, hends, hgives⟩, hs⟩
  have hmoves := hstop.movesOn_iff htruthful hends hgives
  have hwindow := hstop.window hends hgives
  refine ⟨⟨kept, rfl, hwindow.filled, ?_⟩, hs⟩
  rcases @PagedApi.latest?_cases api kept with ⟨hnone, hblank⟩ | ⟨last, hlast, hstamped, hlatest, -⟩
  · -- without a timestamp the checkpoint stays
    have hstays : ¬ MovesOn api limit paging.pages := by
      rw [hmoves]
      rintro ⟨r, hr, hne⟩
      exact hne (hblank r hr)
    rw [hnone]
    refine ⟨⟨?_, fun h => absurd h hstays⟩, fun _ => ⟨rfl, hblank⟩⟩
    rintro ⟨next, hnext, hlater⟩
    exact absurd (hlater next hnext) (lt_irrefl next)
  · have hgoes := hmoves.2 ⟨last, hlast, hstamped⟩
    rw [hlatest]
    refine ⟨⟨fun _ => hgoes, fun _ => ⟨_, rfl, ?_⟩⟩, fun h => absurd hgoes h⟩
    rintro checkpoint rfl
    obtain ⟨left, hcut⟩ := hwindow.cut
    have hmem := hcut.perm.mem_iff.1 (List.mem_append_left _ hlast)
    rcases hnewer last hmem with hblank | hafter
    · exact absurd hblank hstamped
    · exact PagedApi.isAfter_some.1 hafter

/-- **When a batch moves the checkpoint.** An answer whose records have no timestamp or one after the checkpoint, in
ascending order over pages with a true word on whether more follow, is read without a failure. The batch is empty only
if the answer is. The next checkpoint is set and after the last one exactly if the answer moves it on; otherwise it is
the last one again, and no record of the batch has a timestamp. -/
theorem checkpoint_moves (htruthful : paging.Truthful)
    (hnewer : ∀ r ∈ paging.pages.flatten, api.timestamp r = "" ∨ api.isAfter since r = true) (hlimit : 1 ≤ limit)
    {w : World σ} (hsteady : paging.steady w.state) :
    ∃ kept reached w', (api.fetch transport since limit).runIn w = (.ok ⟨some kept, reached, api.provider⟩, w') ∧
      paging.steady w'.state ∧ (kept = [] → paging.pages.flatten = []) ∧
      (Onward since reached ↔ MovesOn api limit paging.pages) ∧
      (¬ MovesOn api limit paging.pages → reached = since ∧ ∀ r ∈ kept, api.timestamp r = "") := by
  obtain ⟨batch, w', hrun, ⟨kept, hbatch, hmoves⟩, hw'⟩ := (paging.leads_moves htruthful hnewer hlimit).returns hsteady
  rw [hbatch] at hrun
  exact ⟨kept, batch.checkpoint, w', hrun, hw', hmoves⟩

end Paging

/-! ## 4. A record without a timestamp -/

/-- The body of the one page of the mixed service: a record without a timestamp and one with. -/
def mixedBody (page : Option String) : String :=
  if page = some (toString 1) then
    "\x7b\"data\": [\x7b\"name\": \"a\"\x7d, \x7b\"name\": \"b\", \"updated_at\": \"1\"\x7d], \"has_next\": false\x7d"
  else "\x7b\"data\": [], \"has_next\": false\x7d"

def mixedTransport : Transport Unit := fun request =>
  return { status := 200, body := mixedBody (Fields.get? request.params "page") }

def mixedApi : PagedApi := { sourceName := "orders", url := "https://orders.example.com" }

def mixedPages : List (List Record) := [[[("name", .text "a")], sampleRecord "b" "1"]]

theorem mixedBody_page (number : Nat) :
    ∃ value, Json.read? (PagedApi.withoutMark (mixedBody (some (toString (number + 1))))) = some value ∧
      mixedApi.pageOf value = .ok ⟨(mixedPages.getD number []).map .object, false⟩ := by
  have hpage : some (toString (number + 1)) = some (toString 1) ↔ number = 0 := by
    rw [Option.some_inj]
    exact Nat.repr_inj.trans (by omega)
  simp only [mixedBody, hpage]
  rcases number with _ | number
  · exact ⟨.object [("data", .list [.object [("name", .text "a")], .object (sampleRecord "b" "1")]),
      ("has_next", .bool false)], by cbv, rfl⟩
  · exact ⟨.object [("data", .list []), ("has_next", .bool false)], by cbv, rfl⟩

/-- The one page of the mixed service, for a reading without a checkpoint. -/
def mixedPaging : Paging mixedApi mixedTransport none where
  steady := fun _ => True
  pages := mixedPages
  word := fun _ more => more = false
  filled := by simp [mixedPages]
  ordered := by simp [mixedPages]
  onward := by simp
  ended := by
    intro number _
    rcases number with _ | number
    · exact .inr (by decide)
    · exact .inl rfl
  delivered := by
    intro number s _
    refine ⟨_, rfl, Effect.leads_pure fun t _ => .inl ⟨rfl, ?_, trivial⟩⟩
    obtain ⟨value, hread, hpage⟩ := mixedBody_page number
    exact ⟨value, false, hread, hpage, rfl⟩

theorem mixedPaging_truthful : mixedPaging.Truthful := by
  rintro number more rfl
  rw [eq_comm, decide_eq_false_iff_not]
  show ¬ number + 1 < 1
  omega

theorem mixedPaging_newer : ∀ r ∈ mixedPaging.pages.flatten,
    mixedApi.timestamp r = "" ∨ mixedApi.isAfter none r = true := fun _ _ => .inr rfl

/-- With room for both records the checkpoint moves. -/
theorem mixed_checkpoint_moves : MovesOn mixedApi 2 mixedPages ∧ ∃ kept next w',
    (mixedApi.fetch mixedTransport none 2).runIn { now := ⟨0⟩, state := () } = (.ok ⟨some kept, some next, none⟩, w') := by
  have hmoves : MovesOn mixedApi 2 mixedPages := by
    refine ⟨sampleRecord "b" "1", ⟨by simp [mixedPages], by decide, by decide⟩, .inr (.inl (by decide))⟩
  obtain ⟨kept, reached, w', hrun, -, -, honward, -⟩ := mixedPaging.checkpoint_moves mixedPaging_truthful
    mixedPaging_newer (show (1 : Int) ≤ 2 by decide) (w := { now := ⟨0⟩, state := () }) trivial
  obtain ⟨next, rfl, -⟩ := honward.2 hmoves
  exact ⟨hmoves, kept, next, w', hrun⟩

/-- With room for one record the batch is the one without a timestamp, and no checkpoint is set. -/
theorem mixed_checkpoint_stays : mixedPaging.Truthful ∧
    (∀ r ∈ mixedPaging.pages.flatten, mixedApi.timestamp r = "" ∨ mixedApi.isAfter none r = true) ∧
    ∃ kept w', (mixedApi.fetch mixedTransport none 1).runIn { now := ⟨0⟩, state := () } =
      (.ok ⟨some kept, none, none⟩, w') ∧ kept ≠ [] := by
  have hstays : ¬ MovesOn mixedApi 1 mixedPages := by
    rintro ⟨least, ⟨hmem, hstamped, -⟩, hcase⟩
    have hboth : mixedPages.flatten = [[("name", .text "a")], sampleRecord "b" "1"] := rfl
    rw [hboth] at hmem hcase
    simp only [List.mem_cons, List.not_mem_nil, or_false] at hmem
    rcases hmem with rfl | rfl
    · exact hstamped rfl
    · -- the record without a timestamp and the one with it are two, and the limit is one
      revert hcase
      decide
  obtain ⟨batch, w', hrun, ⟨kept, hbatch, hfilled, -, hblank⟩, -⟩ :=
    (mixedPaging.leads_moves mixedPaging_truthful mixedPaging_newer (show (1 : Int) ≤ 1 by decide)).returns
      (w := { now := ⟨0⟩, state := () }) trivial
  rw [hbatch, (hblank hstays).1] at hrun
  refine ⟨mixedPaging_truthful, mixedPaging_newer, kept, w', hrun, fun hnone => ?_⟩
  have hnothing := hfilled hnone
  cases hnothing

end TableSync.Http
