/-
  TableSync/Proofs/Http/Service.lean
  ==================================
  **A service of pages** — what a service over a fixed collection of records
  answers, and what reading its pages comes to.

  A `Paging` is what one reading comes upon: pages of which no later one holds
  an earlier timestamp, each delivered within the allowed attempts, and a word
  on whether more follow.  `Seen` is the invariant of a reading: the records so
  far are those of the first pages, and the word that more follow is wrong at
  most once, at the end.  A `Service` has split what is newer than each
  checkpoint into such pages; its bodies may be lists or objects, mixed as it
  likes.
-/
import TableSync.Proofs.Http.Attempts
import TableSync.Proofs.Http.Cut

namespace TableSync.Http

variable {σ : Type}

/-! ## 1. A response within the allowed attempts -/

/-- At most so many attempts, counted on from `attempt`, of which all but the last fail in passing, get a successful
response of which `Q` holds. The wait after each of them can be worked out and slept. -/
def DeliversWithin (api : PagedApi) (transport : Transport σ) (request : Request) (Q : Response → σ → Prop) :
    Nat → Nat → σ → Prop
  | 0, _, _ => False
  | left + 1, attempt, s => ∃ wait, api.retryDelay.doubled attempt = some wait ∧
    Effect.Leads (fun t => t = s) (transport request)
      (fun response t => response.isSuccess = true ∧ Q response t ∨
        (∃ pause, Pauses wait (.ok response) pause ∧ Sleepable pause) ∧
          DeliversWithin api transport request Q left (attempt + 1) t)
      (fun failure t => (IsPassing failure ∧ Sleepable wait) ∧
        DeliversWithin api transport request Q left (attempt + 1) t)

theorem DeliversWithin.mono {api : PagedApi} {transport : Transport σ} {request : Request}
    {Q Q' : Response → σ → Prop} {left attempt : Nat} {s : σ}
    (h : DeliversWithin api transport request Q left attempt s) (hQ : ∀ response t, Q response t → Q' response t) :
    DeliversWithin api transport request Q' left attempt s := by
  induction left generalizing attempt s with
  | zero => exact h
  | succ left ih =>
    obtain ⟨wait, hwait, hanswer⟩ := h
    refine ⟨wait, hwait, hanswer.weaken (fun _ ht => ht) ?_ fun _ _ ht => ⟨ht.1, ih ht.2⟩⟩
    rintro response t (⟨hsuccess, ht⟩ | ⟨hpauses, hlater⟩)
    · exact .inl ⟨hsuccess, hQ _ _ ht⟩
    · exact .inr ⟨hpauses, ih hlater⟩

namespace PagedApi

variable {api : PagedApi} {transport : Transport σ} {request : Request} {Q : Response → σ → Prop}

theorem leads_tryOnce {left attempt : Nat} {s : σ} (h : DeliversWithin api transport request Q (left + 1) attempt s) :
    Effect.Leads (fun t => t = s) (api.tryOnce transport request attempt)
      (fun outcome t => match outcome with
        | .answered response => response.isSuccess = true ∧ Q response t
        | .again pause _ _ => Sleepable pause ∧ DeliversWithin api transport request Q left (attempt + 1) t
        | .refused _ => False) (fun _ _ => False) := by
  obtain ⟨wait, hwait, hanswer⟩ := h
  rw [tryOnce, hwait]
  refine (Effect.Leads.attempt hanswer).bind ?_
  rintro (failure | response)
  · refine Effect.leads_of_fact fun hgood => ?_
    obtain ⟨hpassing, hsleepable⟩ := hgood
    obtain ⟨notice, report, hjudge, -⟩ := (Pauses.broken hpassing).judged api attempt
    show Effect.Leads _ (pure (api.judgeFailure attempt wait failure)) _ _
    rw [show api.judgeFailure attempt wait failure = _ from hjudge]
    exact Effect.leads_pure fun _ hs => ⟨hsleepable, hs⟩
  · show Effect.Leads _ (pure (api.judge attempt wait response)) _ _
    refine Effect.leads_pure fun t ht => ?_
    rcases ht with ⟨hsuccess, hQ⟩ | ⟨⟨pause, hpauses, hsleepable⟩, hlater⟩
    · rw [judge_of_isSuccess hsuccess]
      exact ⟨hsuccess, hQ⟩
    · obtain ⟨notice, report, hjudge, -⟩ := hpauses.judged api attempt
      rw [show api.judge attempt wait response = _ from hjudge]
      exact ⟨hsleepable, hlater⟩

theorem leads_pause {P : σ → Prop} {E : Failure → σ → Prop} {wait : Number} (hsleepable : Sleepable wait)
    (notice : String) : Effect.Leads P (pause wait notice) (fun _ => P) E := by
  rw [pause, if_pos hsleepable.1, Effect.sleepByClock, hsleepable.2]
  exact (Effect.leads_log _ _ _).bind fun _ => Effect.leads_sleep _

theorem leads_sendFrom (left attempt : Nat) {s : σ} (h : DeliversWithin api transport request Q left attempt s) :
    Effect.Leads (fun t => t = s) (api.sendFrom transport request left attempt) Q (fun _ _ => False) := by
  induction left generalizing attempt s with
  | zero => exact h.elim
  | succ left ih =>
    rw [sendFrom]
    refine (leads_tryOnce h).bind ?_
    rintro (response | ⟨wait, notice, failure⟩ | failure)
    · refine Effect.leads_of_fact fun hsuccess => ?_
      show Effect.Leads _ (do response.requireSuccess; return response) _ _
      rw [Response.requireSuccess, if_pos hsuccess]
      exact (Effect.leads_pure (Q := fun _ => Q response) fun _ hs => hs).bind
        fun _ => Effect.leads_pure fun _ hs => hs
    · refine Effect.leads_of_fact fun hsleepable => ?_
      show Effect.Leads (DeliversWithin api transport request Q left (attempt + 1)) (if left = 0 then _ else _) _ _
      by_cases hnone : left = 0
      · subst hnone
        exact fun w hw => hw.elim
      · rw [if_neg hnone]
        refine Effect.leads_of_each fun t ht => ?_
        exact (leads_pause hsleepable _).bind fun _ => ih (attempt + 1) ht
    · exact fun w hw => hw.elim

/-! ## 2. A page -/

/-- The value of a body shows the records of a page: in a list, which is full unless the page is the last,
or in a field of an object that says whether more follow. -/
inductive Shows (api : PagedApi) (records : List Record) (last : Bool) : Value → Prop where
  | list (full : last = false → api.pageSize ≤ records.length) : Shows api records last (.list (records.map .object))
  | fields {fields : Fields Value}
      (held : ((Fields.get? fields "data").orElse fun _ => Fields.get? fields "results").getD (.list []) =
        .list (records.map .object))
      (next : ((Fields.get? fields "has_next").map fun v => !v.isBlank).getD false = !last) :
      Shows api records last (.object fields)

/-- The response is successful and its body shows a page. -/
def Carries (api : PagedApi) (records : List Record) (last : Bool) (response : Response) : Prop :=
  ∃ value, Json.read? (withoutMark response.body) = some value ∧ api.Shows records last value

theorem pageOf_of_shows {records : List Record} {last : Bool} {value : Value} (h : api.Shows records last value) :
    ∃ more, api.pageOf value = .ok ⟨records.map .object, more⟩ ∧ (more = true → records ≠ []) ∧
      (more = false → records = [] ∨ last = true) := by
  by_cases hnone : records = []
  · subst hnone
    refine ⟨false, ?_, by simp, fun _ => .inl rfl⟩
    cases h with
    | list full => rfl
    | fields held next =>
      simp only [pageOf, held]
      rfl
  · cases h with
    | list full =>
      refine ⟨decide (api.pageSize ≤ records.length), by simp [pageOf, hnone], fun _ => hnone, fun hmore => ?_⟩
      cases last with
      | true => exact .inr rfl
      | false => exact absurd (full rfl) (by simpa using hmore)
    | fields held next =>
      refine ⟨!last, ?_, fun _ => hnone, fun hmore => .inr (by simpa using hmore)⟩
      simp only [pageOf, held, next]
      rw [if_neg (by simpa [Value.isBlank] using hnone)]
      rfl

theorem recordsOf_objects (records : List Record) : recordsOf (records.map .object) = .ok records := by
  induction records with
  | nil => rfl
  | cons record rest ih =>
    rw [List.map_cons, recordsOf, ih]
    rfl

end PagedApi

/-! ## 3. The pages of a reading -/

/-- What a reading from one checkpoint comes upon, in a steady state: pages, and what is said after each of them of
whether more follow. Every state after an answer is steady. -/
structure Paging (api : PagedApi) (transport : Transport σ) (since : Option String) where
  /-- The states in which it is answered. -/
  steady : σ → Prop
  pages : List (List Record)
  /-- What may be said after the page `number + 1`. -/
  word : Nat → Bool → Prop
  filled : ∀ page ∈ pages, page ≠ []
  ordered : pages.Pairwise fun earlier later => ∀ a ∈ earlier, ∀ b ∈ later, api.timestamp a ≤ api.timestamp b
  onward : ∀ number, word number true → pages.getD number [] ≠ []
  ended : ∀ number, word number false → pages.getD number [] = [] ∨ pages.length ≤ number + 1
  /-- The page `number + 1` comes within the allowed attempts; past the end it is empty. -/
  delivered : ∀ number s, steady s →
    DeliversWithin api transport (api.request since (number + 1))
      (fun response t => (∃ value more, Json.read? (PagedApi.withoutMark response.body) = some value ∧
        api.pageOf value = .ok ⟨(pages.getD number []).map .object, more⟩ ∧ word number more) ∧ steady t)
      api.maxRetries.toNat 0 s

/-- How far a reading of pages has come. -/
structure Seen (pages : List (List Record)) (read : List Record) (progress : PagedApi.Progress) : Prop where
  items : progress.items = read.map .object
  perm : read.Perm (pages.take progress.page).flatten
  onward : progress.more = true → progress.page ≤ pages.length
  ended : progress.more = false → pages.length ≤ progress.page

theorem seen_nothing (pages : List (List Record)) : Seen pages [] {} :=
  ⟨rfl, by simp, by simp, by simp⟩

theorem flatten_take_succ (pages : List (List Record)) (number : Nat) :
    (pages.take (number + 1)).flatten = (pages.take number).flatten ++ pages.getD number [] := by
  rw [List.take_add_one, List.flatten_append, List.getD_eq_getElem?_getD]
  cases pages[number]? <;> simp

theorem Seen.next {pages : List (List Record)} {read : List Record} {progress : PagedApi.Progress}
    (h : Seen pages read progress) (hfilled : ∀ page ∈ pages, page ≠ []) {more : Bool}
    (hmore : more = true → pages.getD progress.page [] ≠ [])
    (hended : more = false → pages.getD progress.page [] = [] ∨ pages.length ≤ progress.page + 1) :
    Seen pages (read ++ pages.getD progress.page [])
      ⟨progress.page + 1, progress.items ++ (pages.getD progress.page []).map .object, more⟩ := by
  refine ⟨by rw [h.items, List.map_append], ?_, fun hnext => ?_, fun hlast => ?_⟩
  · rw [flatten_take_succ]
    exact h.perm.append_right _
  · rcases Nat.lt_or_ge progress.page pages.length with hlt | hge
    · exact hlt
    · refine absurd ?_ (hmore hnext)
      rw [List.getD_eq_getElem?_getD, List.getElem?_eq_none hge]
      rfl
  · rcases hended hlast with hnone | hlast
    · rcases Nat.lt_or_ge progress.page pages.length with hlt | hge
      · rw [List.getD_eq_getElem?_getD, List.getElem?_eq_getElem hlt] at hnone
        exact absurd hnone (hfilled _ (List.getElem_mem hlt))
      · exact Nat.le_succ_of_le hge
    · exact hlast

/-- What was seen is no later than what was not. -/
theorem Seen.le_unseen {api : PagedApi} {pages : List (List Record)} {read : List Record}
    {progress : PagedApi.Progress} (h : Seen pages read progress)
    (hordered : pages.Pairwise fun earlier later => ∀ a ∈ earlier, ∀ b ∈ later, api.timestamp a ≤ api.timestamp b) :
    ∀ a ∈ read, ∀ b ∈ (pages.drop progress.page).flatten, api.timestamp a ≤ api.timestamp b := by
  intro a ha b hb
  obtain ⟨earlier, hearlier, ha⟩ := List.mem_flatten.1 (h.perm.mem_iff.1 ha)
  obtain ⟨later, hlater, hb⟩ := List.mem_flatten.1 hb
  rw [← List.take_append_drop progress.page pages, List.pairwise_append] at hordered
  exact hordered.2.2 earlier hearlier later hlater a ha b hb

theorem Seen.perm_all {pages : List (List Record)} {read : List Record} {progress : PagedApi.Progress}
    (h : Seen pages read progress) : (read ++ (pages.drop progress.page).flatten).Perm pages.flatten := by
  calc
    (read ++ (pages.drop progress.page).flatten).Perm
        ((pages.take progress.page).flatten ++ (pages.drop progress.page).flatten) := h.perm.append_right _
    _ = pages.flatten := by rw [← List.flatten_append, List.take_append_drop]

theorem Seen.unseen_of_ended {pages : List (List Record)} {read : List Record} {progress : PagedApi.Progress}
    (h : Seen pages read progress) (hended : progress.more = false) : (pages.drop progress.page).flatten = [] := by
  rw [List.drop_eq_nil_of_le (h.ended hended), List.flatten_nil]

namespace Paging

variable {api : PagedApi} {transport : Transport σ} {since : Option String} (paging : Paging api transport since)

/-! ## 4. Reading pages -/

theorem leads_fetchPage (number : Nat) :
    Effect.Leads paging.steady (api.fetchPage transport since (number + 1))
      (fun page s => (∃ more, page = ⟨(paging.pages.getD number []).map .object, more⟩ ∧ paging.word number more) ∧
        paging.steady s)
      (fun _ _ => False) := by
  unfold PagedApi.fetchPage
  refine (Effect.leads_log _ _ _).bind fun _ => Effect.leads_of_each fun s hs => ?_
  refine (PagedApi.leads_sendFrom _ 0 (paging.delivered number s hs)).bind fun response => ?_
  refine Effect.leads_of_fact ?_
  rintro ⟨value, more, hread, hpage, hword⟩
  rw [hread]
  show Effect.Leads _ (Effect.ofExcept (api.pageOf value)) _ _
  rw [hpage]
  exact Effect.leads_pure fun t ht => ⟨⟨more, rfl, hword⟩, ht⟩

theorem leads_advance {read : List Record} {progress : PagedApi.Progress} (hseen : Seen paging.pages read progress) :
    Effect.Leads paging.steady (api.advance transport since progress)
      (fun reached s => (reached.page = progress.page + 1 ∧
        Seen paging.pages (read ++ paging.pages.getD progress.page []) reached ∧
        paging.word progress.page reached.more) ∧ paging.steady s)
      (fun _ _ => False) := by
  unfold PagedApi.advance
  refine (paging.leads_fetchPage progress.page).bind fun page => Effect.leads_of_fact ?_
  rintro ⟨more, rfl, hword⟩
  refine Effect.leads_pure fun t ht => ⟨⟨rfl, hseen.next paging.filled ?_ ?_, hword⟩, ht⟩
  · rintro rfl
    exact paging.onward _ hword
  · rintro rfl
    exact paging.ended _ hword

/-- The last page of a reading was read because what came before it was not enough. -/
def Wanted (goOn : List Record → Bool) (all : List Record) (reached : PagedApi.Progress) : Prop :=
  ∃ number before, reached.page = number + 1 ∧ all = before ++ paging.pages.getD number [] ∧ goOn before = true ∧
    paging.word number reached.more

/-- Pages are read as long as wanted, and the reading ends. -/
theorem leads_advanceWhile {wanted : List Value → Except Failure Bool} (goOn : List Record → Bool)
    (hwanted : ∀ read, wanted (read.map .object) = .ok (goOn read)) {read : List Record}
    {progress : PagedApi.Progress} (hseen : Seen paging.pages read progress) :
    Effect.Leads paging.steady (api.advanceWhile transport since wanted progress)
      (fun reached s => (∃ all, read <+: all ∧ Seen paging.pages all reached ∧ (reached.more = true → goOn all = false) ∧
        ((all = read ∧ reached = progress) ∨ paging.Wanted goOn all reached)) ∧ paging.steady s)
      (fun _ _ => False) := by
  unfold PagedApi.advanceWhile
  -- a page more is a page closer to the end; the one past it may be asked for
  refine (Effect.leads_repeatM
    (I := fun reached s => (∃ all, read <+: all ∧ Seen paging.pages all reached ∧
      ((all = read ∧ reached = progress) ∨ paging.Wanted goOn all reached)) ∧ paging.steady s)
    (fun progress => paging.pages.length + 1 - progress.page) ?_ progress).weaken
    (fun s hs => ⟨⟨read, List.prefix_rfl, hseen, .inl ⟨rfl, rfl⟩⟩, hs⟩) (fun _ _ h => h) (fun _ _ h => h)
  intro current
  refine Effect.leads_of_fact ?_
  rintro ⟨all, hgrown, hall, hlast⟩
  by_cases hmore : current.more = true
  · rw [if_pos hmore, hall.items, hwanted]
    by_cases hgoOn : goOn all = true
    · show Effect.Leads _ (if goOn all = true then _ else _) _ _
      rw [if_pos hgoOn]
      refine (paging.leads_advance hall).bind fun reached => Effect.leads_of_fact ?_
      rintro ⟨hpage, hreached, hword⟩
      have hcloser : paging.pages.length + 1 - reached.page < paging.pages.length + 1 - current.page := by
        have := hall.onward hmore
        omega
      refine Effect.leads_pure fun s hs => ⟨hcloser, ⟨_, hgrown.trans (List.prefix_append _ _), hreached, .inr ?_⟩, hs⟩
      exact ⟨current.page, all, hpage, rfl, hgoOn, hword⟩
    · show Effect.Leads _ (if goOn all = true then _ else _) _ _
      rw [if_neg hgoOn]
      exact Effect.leads_pure fun s hs => ⟨⟨all, hgrown, hall, fun _ => by simpa using hgoOn, hlast⟩, hs⟩
  · rw [if_neg hmore]
    exact Effect.leads_pure fun s hs => ⟨⟨all, hgrown, hall, fun h => absurd h hmore, hlast⟩, hs⟩

end Paging

/-! ## 5. The service -/

/-- A service over a fixed collection of records: what it answers in a steady state, and every state
after an answer is steady. -/
structure Service (api : PagedApi) (transport : Transport σ) (records : List Record) where
  /-- The states in which it answers. -/
  steady : σ → Prop
  /-- What is newer than a checkpoint, in pages. -/
  pages : Option String → List (List Record)
  stamped : ∀ record ∈ records, api.Stamped record
  newer : ∀ since, (pages since).flatten.Perm (records.filter (api.isAfter since))
  filled : ∀ since, ∀ page ∈ pages since, page ≠ []
  ordered : ∀ since, (pages since).Pairwise fun earlier later =>
    ∀ a ∈ earlier, ∀ b ∈ later, api.timestamp a ≤ api.timestamp b
  /-- The page `number + 1` comes within the allowed attempts; past the end it is empty. -/
  delivered : ∀ since number s, steady s →
    DeliversWithin api transport (api.request since (number + 1))
      (fun response t => api.Carries ((pages since).getD number []) (decide ((pages since).length ≤ number + 1))
        response ∧ steady t)
      api.maxRetries.toNat 0 s

/-- The pages of a service that are newer than a checkpoint. The word after a page need not be true of the last one. -/
def Service.paging {api : PagedApi} {transport : Transport σ} {records : List Record}
    (service : Service api transport records) (since : Option String) : Paging api transport since where
  steady := service.steady
  pages := service.pages since
  word number more := (more = true → (service.pages since).getD number [] ≠ []) ∧
    (more = false → (service.pages since).getD number [] = [] ∨ (service.pages since).length ≤ number + 1)
  filled := service.filled since
  ordered := service.ordered since
  onward _ hword := hword.1 rfl
  ended _ hword := hword.2 rfl
  delivered number s hs := by
    refine (service.delivered since number s hs).mono fun response t ht => ⟨?_, ht.2⟩
    obtain ⟨⟨value, hread, hshows⟩, -⟩ := ht
    obtain ⟨more, hpage, hmore, hended⟩ := PagedApi.pageOf_of_shows hshows
    exact ⟨value, more, hread, hpage, hmore, by simpa using hended⟩

end TableSync.Http
