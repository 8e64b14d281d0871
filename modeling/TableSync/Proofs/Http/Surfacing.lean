/-
  TableSync/Proofs/Http/Surfacing.lean
  ====================================
  **What escapes a fetch** — which answers let a fetch end by a failure that is
  none of the source.

  Every answer has one `Reading`: it holds a page, calls for another attempt, is
  told as a failure of the source, or leaks as a failure of something beneath.
  A fetch goes on as long as answers are pages or call for another attempt after
  a wait that can be slept (`Reached`), so its last answer decides how it ends,
  except that the items of all pages are looked at together (`Plain`).
  `leads_fetch_script` puts the loops together; they end because a finite list of
  answers runs out.
-/
import TableSync.Proofs.Http.Attempts
import TableSync.Proofs.Http.Cut

namespace TableSync.Http

/-! ## 1. How an answer reads -/

/-- What an answer to the request for a page comes to. -/
inductive Reading where
  /-- A page. -/
  | page (page : PagedApi.Page)
  /-- Another attempt, or the report that there were too many. -/
  | passing
  /-- A failure of the source. -/
  | told
  /-- A failure of something else. -/
  | leak

/-- The answers of a list, and after them a service that has nothing more. -/
def Script.ofList (answers : List (Except Failure Response)) : Script :=
  fun n => answers.getD n (.ok { status := 200, body := "[]" })

/-- The refusal asks for no wait, or for a wait that can be read. -/
def Response.isReadable (response : Response) : Bool :=
  match response.header? "Retry-After" with
  | some text => (Text.Integer.readWithin? Text.Integer.digitLimit text).isSome
  | none => true

/-- A failure is one of the source. -/
def OfSource (failure : Failure) : Prop := failure.isOf (.fault .source) = true

theorem ofSource_of_kind {failure : Failure} {kind : FaultKind} (hkind : kind.isA .source = true)
    (h : failure.isOf (.fault kind) = true) : OfSource failure := by
  cases failure with
  | fault own message context raisedAt hints cause =>
    have hown : own.isA kind = true := h
    show own.isA .source = true
    revert hkind hown
    cases kind <;> cases own <;> decide
  | outside => cases h
  | invalid => cases h

theorem IsArithmetic.not_ofSource {failure : Failure} (h : IsArithmetic failure) : ¬ OfSource failure := by
  rw [OfSource, h.not_fault]
  exact Bool.false_ne_true

theorem exhaustion_isA (answer : Except Failure Response) : (exhaustion answer).isA .source = true := by
  cases answer with
  | error failure => exact (by decide : FaultKind.network.isA .source = true)
  | ok response =>
    rw [exhaustion]
    split <;> decide

namespace PagedApi

/-- How the body of a successful answer reads. -/
def readingOf (api : PagedApi) (response : Response) : Reading :=
  match Json.read? (withoutMark response.body) with
  | none => .told
  | some value => match api.pageOf value with
    | .ok page => .page page
    | .error _ => .leak

/-- How an answer reads. -/
def reading (api : PagedApi) : Except Failure Response → Reading
  | .error failure =>
    if failure.isOf (.outside .transportTimeout) || failure.isOf (.outside .networkFault) then .passing
    else if failure.isOf (.fault .source) then .told
    else .leak
  | .ok response =>
    if response.status ∈ [401, 403, 404] then .told
    else if response.status = 429 then if response.isReadable then .passing else .leak
    else if 500 ≤ response.status then .passing
    else if response.isSuccess then api.readingOf response
    else .leak

/-- Every wait between two attempts is a number of seconds. -/
def WaitsFinite (api : PagedApi) : Prop :=
  ∀ i < api.maxRetries.toNat, ∃ wait seconds, api.retryDelay.doubled i = some wait ∧ wait.wholePart? = some seconds

/-- The attempt, counting from zero, to which the answer `i` belongs: as many answers right before it call for another
attempt. -/
def attemptOf (api : PagedApi) (script : Script) : Nat → Nat
  | 0 => 0
  | i + 1 => match api.reading (script i) with
    | .passing => attemptOf api script i + 1
    | _ => 0

/-- The answer `i` calls for another attempt after a wait that cannot be slept. -/
def Overlong (api : PagedApi) (script : Script) (i : Nat) : Prop :=
  api.attemptOf script i + 1 < api.maxRetries.toNat ∧
    ∃ pause, api.Waits (api.attemptOf script i) (script i) pause ∧ ¬ Sleepable pause

/-- The failure by which the answer `n` ends a fetch. -/
inductive Fails (api : PagedApi) (script : Script) (n : Nat) (failure : Failure) : Prop where
  | told (ofSource : OfSource failure) (reads : api.reading (script n) = .told ∨ api.reading (script n) = .passing)
      (slept : ¬ api.Overlong script n)
  | leaked (beneath : ¬ OfSource failure) (reads : api.reading (script n) = .leak ∨ api.Overlong script n)

variable {api : PagedApi} {script : Script} {request : Request} {wait pause : Number}
  {answer : Except Failure Response} {failure : Failure}

theorem reading_of_waits {i : Nat} (h : api.Waits i answer pause) : api.reading answer = .passing := by
  obtain ⟨wait, -, hpauses⟩ := h
  cases hpauses with
  | @busy response seconds refused asked =>
    have hreadable : response.isReadable = true := by
      cases hheader : response.header? "Retry-After" with
      | none => rw [Response.isReadable, hheader]
      | some text =>
        rw [Response.Asks, hheader] at asked
        rw [Response.isReadable, hheader]
        exact Option.isSome_iff_exists.2 ⟨_, asked⟩
    rw [reading, if_neg (by simp [refused]), if_pos refused, if_pos hreadable]
  | @faulty response fault =>
    rw [reading, if_neg (by simp; omega), if_neg (by omega), if_pos fault]
  | @broken failure passing => rw [reading, if_pos (by simpa [IsPassing] using passing)]

theorem reading_of_unasked {seconds : Int} (hpart : wait.wholePart? = some seconds) (h : Unasked wait answer) :
    api.reading answer = .leak := by
  obtain ⟨response, rfl, hrefused, hasks⟩ := h
  have hreadable : response.isReadable = false := by
    unfold Response.Asks at hasks
    unfold Response.isReadable
    cases hheader : response.header? "Retry-After" with
    | none => simp [hheader, hpart] at hasks
    | some text =>
      simp only [hheader] at hasks
      simpa using Option.eq_none_iff_forall_ne_some.2 hasks
  rw [reading, if_neg (by simp [hrefused]), if_pos hrefused, hreadable]
  rfl

theorem not_overlong_of_reading {i : Nat} (h : api.reading (script i) ≠ .passing) : ¬ api.Overlong script i := by
  rintro ⟨-, pause, hwaits, -⟩
  exact h (reading_of_waits hwaits)

theorem reading_of_answered {response : Response} (h : response.isSuccess = true) :
    api.reading (.ok response) = api.readingOf response := by
  have hstatus : 200 ≤ response.status ∧ response.status < 300 := by
    simpa only [Response.isSuccess, Bool.and_eq_true, decide_eq_true_eq] using h
  rw [reading, if_neg (by simp; omega), if_neg (by omega), if_neg (by omega), if_pos h]

/-- An answer that settles a sending without a response is told or leaks, as it reads. -/
theorem settles_error (api : PagedApi) (hnot : ¬ Recoverable answer) (h : Settles answer (.error failure)) :
    (OfSource failure ∧ api.reading answer = .told) ∨ (¬ OfSource failure ∧ api.reading answer = .leak) := by
  cases h with
  | @denied response _ status kind =>
    refine .inl ⟨ofSource_of_kind rfl kind, ?_⟩
    rw [reading, if_pos (by rcases status with hstatus | hstatus <;> simp [hstatus])]
  | @missing response _ status kind =>
    refine .inl ⟨ofSource_of_kind rfl kind, ?_⟩
    rw [reading, if_pos (by simp [status])]
  | @refused response _ unsuccessful status kind =>
    simp only [Recoverable, not_or] at hnot
    refine .inr ⟨?_, ?_⟩
    · cases failure with
      | fault => cases kind
      | outside => exact Bool.false_ne_true
      | invalid => exact Bool.false_ne_true
    · rw [reading, if_neg status, if_neg hnot.1, if_neg hnot.2, unsuccessful]
      rfl
  | broken =>
    have hpassing : ¬ (failure.isOf (.outside .transportTimeout) || failure.isOf (.outside .networkFault)) = true := by
      simpa [Recoverable, IsPassing] using hnot
    by_cases hsource : failure.isOf (.fault .source) = true
    · exact .inl ⟨hsource, by rw [reading, if_neg hpassing, if_pos hsource]⟩
    · exact .inr ⟨hsource, by rw [reading, if_neg hpassing, if_neg hsource]⟩

/-- An answer that settles a sending without a response fails it as it reads. -/
theorem fails_of_settles {n : Nat} (hnot : ¬ Recoverable (script n)) (h : Settles (script n) (.error failure)) :
    api.Fails script n failure := by
  rcases settles_error api hnot h with ⟨hsource, hreads⟩ | ⟨hbeneath, hreads⟩
  · exact .told hsource (.inl hreads) (not_overlong_of_reading (by simp [hreads]))
  · exact .leaked hbeneath (.inl hreads)

theorem itemsOf_error {value : Value} (h : itemsOf value = .error failure) : ¬ OfSource failure := by
  unfold itemsOf at h
  split at h
  · cases h
  · cases h
  · cases h
  · cases h
    exact Bool.false_ne_true

theorem pageOf_error {value : Value} (h : api.pageOf value = .error failure) : ¬ OfSource failure := by
  unfold pageOf at h
  split at h
  · cases h
  · next fields =>
    dsimp only at h
    split at h
    · cases h
    · generalize ((Fields.get? fields "data").orElse fun _ => Fields.get? fields "results").getD (.list []) = held at h
      cases hitems : itemsOf held with
      | ok items =>
        rw [hitems] at h
        cases h
      | error beneath =>
        rw [hitems] at h
        cases h
        exact itemsOf_error hitems
  · cases h
    exact Bool.false_ne_true

/-! ## 2. A page -/

/-- A page was asked for from the answer `m` on, and the last answer was the answer `n`; those before it call for
another attempt, and the wait was slept. -/
structure Asked (api : PagedApi) (script : Script) (m n : Nat) (s : List Sent) : Prop where
  length : s.length = n + 1
  start : m ≤ n
  passing : ∀ i, m ≤ i → i < n → api.reading (script i) = .passing ∧ ¬ api.Overlong script i

theorem Asked.more {m n : Nat} {s : List Sent} (h : api.Asked script (m + 1) n s)
    (hfirst : api.reading (script m) = .passing ∧ ¬ api.Overlong script m) : api.Asked script m n s := by
  refine ⟨h.length, Nat.le_of_succ_le h.start, fun i hm hn => ?_⟩
  rcases Nat.eq_or_lt_of_le hm with rfl | hlt
  · exact hfirst
  · exact h.passing i hlt hn

theorem asked_once {m : Nat} {s : List Sent} (h : s.length = m + 1) : api.Asked script m m s :=
  ⟨h, Nat.le_refl m, fun _ hm hn => absurd hn (Nat.not_lt.2 hm)⟩

/-- The sending from the answer `m` on was answered. -/
def Delivered (api : PagedApi) (script : Script) (m : Nat) (response : Response) (s : List Sent) : Prop :=
  ∃ n, api.Asked script m n s ∧ script n = .ok response ∧ response.isSuccess = true

/-- The sending from the answer `m` on failed as its last answer reads. -/
def Failed (api : PagedApi) (script : Script) (m : Nat) (failure : Failure) (s : List Sent) : Prop :=
  ∃ n, api.Asked script m n s ∧ api.Fails script n failure

/-- An answer that no wait follows ends the sending. -/
theorem sendFrom_ends (request : Request) (hfinite : api.WaitsFinite) {left attempt : Nat}
    (hleft : attempt + (left + 1) = api.maxRetries.toNat) {w : World (List Sent)}
    (h : ¬ ∃ pause, api.Waits attempt (script w.state.length) pause) :
    (∃ response w', (api.sendFrom script.transport request (left + 1) attempt).runIn w = (.ok response, w') ∧
      api.Delivered script w.state.length response w'.state) ∨
    ∃ failure w', (api.sendFrom script.transport request (left + 1) attempt).runIn w = (.error failure, w') ∧
      api.Failed script w.state.length failure w'.state := by
  obtain ⟨wait, seconds, hwait, hpart⟩ := hfinite attempt (by omega)
  have hlength : (w.state ++ [(⟨request, w.sleeps⟩ : Sent)]).length = w.state.length + 1 := by simp
  by_cases hstuck : api.Stuck attempt (script w.state.length)
  · obtain ⟨failure, w', hrun, harithmetic, -, hsent⟩ := sendFrom_stuck request _ hleft rfl hstuck
    simp only [hwait, Option.isSome_some, if_true] at hsent
    have hunasked : Unasked wait (script w.state.length) := by
      rcases (stuck_iff hwait).1 hstuck with hunasked | ⟨-, pause, hpauses, -⟩
      · exact hunasked
      · exact absurd ⟨pause, wait, hwait, hpauses⟩ h
    exact .inr ⟨failure, w', hrun, _, asked_once (hsent ▸ hlength),
      .leaked harithmetic.not_ofSource (.inl (reading_of_unasked hpart hunasked))⟩
  · have hnot : ¬ Recoverable (script w.state.length) := fun hrecoverable => h (exists_waits hrecoverable hstuck)
    obtain ⟨outcome, hrun, hsettles⟩ := sendFrom_settles request left rfl hwait hnot
    cases outcome with
    | error failure => exact .inr ⟨failure, _, hrun, _, asked_once hlength, fails_of_settles hnot hsettles⟩
    | ok response =>
      refine .inl ⟨response, _, hrun, _, asked_once hlength, ?_⟩
      generalize script w.state.length = answer at hsettles
      cases hsettles with
      | answered success => exact ⟨rfl, success⟩

theorem attemptOf_succ {i : Nat} (h : api.reading (script i) = .passing) :
    api.attemptOf script (i + 1) = api.attemptOf script i + 1 := by
  rw [attemptOf, h]

/-- A sending ends by a successful response, or by a failure as the last answer reads. -/
theorem leads_sendFrom_script (request : Request) (hfinite : api.WaitsFinite) (left attempt m : Nat)
    (hleft : attempt + (left + 1) = api.maxRetries.toNat) (hattempt : api.attemptOf script m = attempt) :
    Effect.Leads (fun s => s.length = m) (api.sendFrom script.transport request (left + 1) attempt)
      (api.Delivered script m) (api.Failed script m) := by
  induction left generalizing attempt m with
  | zero =>
    rintro w rfl
    by_cases hwaits : ∃ pause, api.Waits attempt (script w.state.length) pause
    · obtain ⟨pause, hwaits⟩ := hwaits
      obtain ⟨failure, hrun, hkind⟩ := sendFrom_exhausted request rfl hwaits
      have hslept : ¬ api.Overlong script w.state.length := fun hlong => by
        have hmore := hlong.1
        omega
      exact .inr ⟨failure, _, hrun, _, asked_once (by simp),
        .told (ofSource_of_kind (exhaustion_isA _) hkind) (.inr (reading_of_waits hwaits)) hslept⟩
    · exact sendFrom_ends request hfinite hleft hwaits
  | succ left ih =>
    rintro w rfl
    by_cases hwaits : ∃ pause, api.Waits attempt (script w.state.length) pause
    · obtain ⟨pause, hwaits⟩ := hwaits
      have hpassing := reading_of_waits hwaits
      by_cases hsleepable : Sleepable pause
      · obtain ⟨v, hrun, hsent, -⟩ := sendFrom_again request left rfl hwaits hsleepable
        have hslept : ¬ api.Overlong script w.state.length := by
          rintro ⟨-, other, hother, hlong⟩
          rw [hattempt] at hother
          exact hlong (hwaits.unique hother ▸ hsleepable)
        rw [hrun]
        rcases ih (attempt + 1) (w.state.length + 1) (by omega) ((attemptOf_succ hpassing).trans (by rw [hattempt])) v
          (by simp [hsent]) with ⟨response, w', hend, n, hasked, hanswer⟩ | ⟨failure, w', hend, n, hasked, hfails⟩
        · exact .inl ⟨response, w', hend, n, hasked.more ⟨hpassing, hslept⟩, hanswer⟩
        · exact .inr ⟨failure, w', hend, n, hasked.more ⟨hpassing, hslept⟩, hfails⟩
      -- Too long a wait ends the sending, though another attempt would follow.
      · have hmore : attempt + 1 < api.maxRetries.toNat := by omega
        obtain ⟨wait, hwait, hpauses⟩ := hwaits
        obtain ⟨failure, w', hrun, harithmetic, -, hsent⟩ := sendFrom_stuck request _ hleft rfl
          ((stuck_iff hwait).2 (.inr ⟨hmore, pause, hpauses, hsleepable⟩))
        simp only [hwait, Option.isSome_some, if_true] at hsent
        have hoverlong : api.Overlong script w.state.length := by
          rw [Overlong, hattempt]
          exact ⟨hmore, pause, ⟨wait, hwait, hpauses⟩, hsleepable⟩
        exact .inr ⟨failure, w', hrun, _, asked_once (by simp [hsent]),
          .leaked harithmetic.not_ofSource (.inr hoverlong)⟩
    · exact sendFrom_ends request hfinite hleft hwaits

/-- The page asked for from the answer `m` on was read. -/
def Turned (api : PagedApi) (script : Script) (m : Nat) (page : Page) (s : List Sent) : Prop :=
  ∃ n, api.Asked script m n s ∧ api.reading (script n) = .page page

theorem leads_fetchPage (hretries : 1 ≤ api.maxRetries) (hfinite : api.WaitsFinite) (since : Option String)
    (number : Nat) {m : Nat} (hfirst : api.attemptOf script m = 0) :
    Effect.Leads (fun s => s.length = m) (api.fetchPage script.transport since number) (api.Turned script m)
      (api.Failed script m) := by
  unfold fetchPage
  refine (Effect.leads_log _ _ _).bind fun _ => ?_
  have hsend : Effect.Leads (fun s => s.length = m) (api.send script.transport (api.request since number))
      (api.Delivered script m) (api.Failed script m) := by
    rw [send, show api.maxRetries.toNat = api.maxRetries.toNat - 1 + 1 by omega]
    exact leads_sendFrom_script _ hfinite _ 0 m (by omega) hfirst
  refine hsend.bind fun response => ?_
  refine Effect.leads_of_exists fun n => Effect.leads_of_each ?_
  rintro s ⟨hasked, hanswer, hsuccess⟩
  have hreading : api.reading (script n) = api.readingOf response := by rw [hanswer, reading_of_answered hsuccess]
  unfold readingOf at hreading
  cases hread : Json.read? (withoutMark response.body) with
  | none =>
    rw [hread] at hreading
    rintro w rfl
    exact .inr ⟨_, w, rfl, n, hasked, .told rfl (.inl hreading) (not_overlong_of_reading (by simp [hreading]))⟩
  | some value =>
    rw [hread] at hreading
    refine (Effect.leads_ofExcept _).weaken (fun _ ht => ht) ?_ ?_
    · rintro page t ⟨hpage, rfl⟩
      simp only [hpage] at hreading
      exact ⟨n, hasked, hreading⟩
    · rintro failure t ⟨hfailure, rfl⟩
      simp only [hfailure] at hreading
      exact ⟨n, hasked, .leaked (pageOf_error hfailure) (.inl hreading)⟩

/-! ## 3. Pages one after another -/

/-- The items are all objects. -/
def Plain (items : List Value) : Prop := ∀ item ∈ items, ∃ fields, item = .object fields

theorem plain_append {items more : List Value} : Plain (items ++ more) ↔ Plain items ∧ Plain more := by
  simp only [Plain, List.mem_append, or_imp, forall_and]

theorem plain_objects (records : List Record) : Plain (records.map .object) := by
  intro item hitem
  obtain ⟨record, -, rfl⟩ := List.mem_map.1 hitem
  exact ⟨record, rfl⟩

theorem recordsOf_cases (items : List Value) :
    (∃ records, items = records.map .object ∧ recordsOf items = .ok records) ∨
      (¬ Plain items ∧ ∃ failure, recordsOf items = .error failure ∧ ¬ OfSource failure) := by
  fun_induction recordsOf items with
  | case1 => exact .inl ⟨[], rfl, rfl⟩
  | case2 fields rest ih =>
    rcases ih with ⟨records, rfl, hrecords⟩ | ⟨hrest, failure, hfailure, hbeneath⟩
    · exact .inl ⟨fields :: records, rfl, by rw [hrecords]; rfl⟩
    · refine .inr ⟨fun hplain => hrest ?_, failure, by rw [hfailure]; rfl, hbeneath⟩
      exact fun item hitem => hplain item (List.mem_cons_of_mem _ hitem)
  | case3 item rest hitem =>
    refine .inr ⟨fun hplain => ?_, _, rfl, Bool.false_ne_true⟩
    obtain ⟨fields, rfl⟩ := hplain item List.mem_cons_self
    exact hitem fields rfl

/-- The answer is a page on which some item is not an object. -/
def Ragged (api : PagedApi) (answer : Except Failure Response) : Prop :=
  ∃ page, api.reading answer = .page page ∧ ¬ Plain page.items

/-- The answer `i` is a page, or calls for another attempt after a wait that can be slept. -/
def Mild (api : PagedApi) (script : Script) (i : Nat) : Prop :=
  (api.reading (script i) = .passing ∧ ¬ api.Overlong script i) ∨ ∃ page, api.reading (script i) = .page page

/-- How far a reading of pages has come: every answer was mild, the last one a page, and the items are plain exactly
if every page was. -/
structure Reached (api : PagedApi) (script : Script) (progress : Progress) (s : List Sent) : Prop where
  mild : ∀ i < s.length, api.Mild script i
  last : s ≠ [] → ∃ page, api.reading (script (s.length - 1)) = .page page
  plain : Plain progress.items ↔ ∀ i < s.length, ¬ api.Ragged (script i)
  paged : progress.page ≤ s.length

theorem reached_nothing : api.Reached script {} [] :=
  ⟨fun _ hi => absurd hi (Nat.not_lt_zero _), fun hne => absurd rfl hne, by simp [Plain], Nat.le_refl _⟩

/-- What ended a fetch by a failure: the last answer, or an item on a page before it that is not an object. -/
inductive Broken (api : PagedApi) (script : Script) (failure : Failure) (s : List Sent) : Prop where
  | answer {n : Nat} (length : s.length = n + 1) (mild : ∀ i < n, api.Mild script i)
      (fails : api.Fails script n failure)
  | item (mild : ∀ i < s.length, api.Mild script i)
      (last : s ≠ [] → ∃ page, api.reading (script (s.length - 1)) = .page page)
      (ragged : ∃ i < s.length, api.Ragged (script i)) (beneath : ¬ OfSource failure)

/-- A page is asked for anew behind a page. -/
theorem Reached.attemptOf {progress : Progress} {s : List Sent} (h : api.Reached script progress s) :
    api.attemptOf script s.length = 0 := by
  cases hlength : s.length with
  | zero => rfl
  | succ i =>
    obtain ⟨page, hpage⟩ := h.last (List.ne_nil_of_length_eq_add_one hlength)
    rw [hlength, Nat.add_sub_cancel] at hpage
    rw [PagedApi.attemptOf, hpage]

/-- From the answer `bound` on the service has nothing more. -/
def EndsBy (api : PagedApi) (script : Script) (bound : Nat) : Prop :=
  ∀ n, bound ≤ n → api.reading (script n) = .page {}

theorem Turned.lt_bound {bound m : Nat} {page : Page} {s : List Sent} (hend : api.EndsBy script bound)
    (h : api.Turned script m page s) (hmore : page.more = true) : m < bound := by
  obtain ⟨n, hasked, hreading⟩ := h
  refine Nat.lt_of_not_le fun hle => ?_
  rw [hend n (Nat.le_trans hle hasked.start)] at hreading
  cases hreading
  cases hmore

theorem Failed.broken {progress : Progress} {s t : List Sent} (hreached : api.Reached script progress s)
    (h : api.Failed script s.length failure t) : api.Broken script failure t := by
  obtain ⟨n, hasked, hfails⟩ := h
  refine .answer hasked.length (fun i hi => ?_) hfails
  rcases Nat.lt_or_ge i s.length with hlt | hge
  · exact hreached.mild i hlt
  · exact .inl (hasked.passing i hge hi)

theorem Turned.reached {progress : Progress} {page : Page} {s t : List Sent} (hreached : api.Reached script progress s)
    (h : api.Turned script s.length page t) :
    api.Reached script ⟨progress.page + 1, progress.items ++ page.items, page.more⟩ t := by
  obtain ⟨n, hasked, hreading⟩ := h
  refine ⟨fun i hi => ?_, fun _ => ⟨page, ?_⟩, ?_, ?_⟩
  · rw [hasked.length] at hi
    rcases Nat.lt_or_ge i s.length with hlt | hge
    · exact hreached.mild i hlt
    rcases Nat.lt_succ_iff_lt_or_eq.1 hi with hlt | rfl
    · exact .inl (hasked.passing i hge hlt)
    · exact .inr ⟨page, hreading⟩
  · rw [hasked.length]
    exact hreading
  · rw [plain_append, hreached.plain, hasked.length]
    constructor
    · rintro ⟨hbefore, hpage⟩ i hi ⟨other, hother, hragged⟩
      rcases Nat.lt_or_ge i s.length with hlt | hge
      · exact hbefore i hlt ⟨other, hother, hragged⟩
      rcases Nat.lt_succ_iff_lt_or_eq.1 hi with hlt | rfl
      · rw [(hasked.passing i hge hlt).1] at hother
        cases hother
      · rw [hreading] at hother
        cases hother
        exact hragged hpage
    · intro hall
      have hstart := hasked.start
      refine ⟨fun i hi => hall i (by omega), Classical.byContradiction fun hragged => ?_⟩
      exact hall n (Nat.lt_succ_self n) ⟨page, hreading, hragged⟩
  · have hstart := hasked.start
    have hpaged := hreached.paged
    rw [hasked.length]
    show progress.page + 1 ≤ n + 1
    omega

/-- Every answer was mild and no page ragged. -/
def Tidy (api : PagedApi) (script : Script) (s : List Sent) : Prop :=
  ∀ i < s.length, api.Mild script i ∧ ¬ api.Ragged (script i)

/-- The items that were read are records if every page was plain. -/
theorem Reached.leads_recordsOf {progress : Progress} {s : List Sent} (h : api.Reached script progress s) :
    Effect.Leads (fun t => t = s) (Effect.ofExcept (recordsOf progress.items))
      (fun records t => (progress.items = records.map .object ∧ api.Tidy script s) ∧ t = s) (api.Broken script) := by
  rcases recordsOf_cases progress.items with ⟨records, hitems, hrecords⟩ | ⟨hragged, failure, hfailure, hbeneath⟩
  · rw [hrecords]
    refine Effect.leads_pure ?_
    rintro t rfl
    have hplain := h.plain.1 (hitems ▸ plain_objects records)
    exact ⟨⟨hitems, fun i hi => ⟨h.mild i hi, hplain i hi⟩⟩, rfl⟩
  · rw [hfailure]
    refine Effect.leads_fail ?_
    rintro t rfl
    refine .item h.mild h.last ?_ hbeneath
    exact Classical.byContradiction fun hnone => hragged (h.plain.2 fun i hi hbad => hnone ⟨i, hi, hbad⟩)

theorem Reached.withRecords {progress : Progress} {s : List Sent} (h : api.Reached script progress s)
    (htidy : api.Tidy script s) (records : List Record) :
    api.Reached script { progress with items := records.map .object } s :=
  ⟨h.mild, h.last, iff_of_true (plain_objects records) fun i hi => (htidy i hi).2, h.paged⟩

/-! ## 4. Windows -/

section

variable (hretries : 1 ≤ api.maxRetries) (hfinite : api.WaitsFinite) {bound : Nat} (hend : api.EndsBy script bound)
  (since : Option String)
include hretries hfinite hend

theorem leads_advance {progress : Progress} {s : List Sent} (hreached : api.Reached script progress s) :
    Effect.Leads (fun t => t = s) (api.advance script.transport since progress)
      (fun next t => next.page = progress.page + 1 ∧ (next.more = true → next.page ≤ bound) ∧
        api.Reached script next t)
      (api.Broken script) := by
  unfold advance
  refine ((leads_fetchPage hretries hfinite since (progress.page + 1) hreached.attemptOf).weaken ?_ (fun _ _ ht => ht)
    fun _ _ ht => ht.broken hreached).bind fun page => Effect.leads_pure fun t ht => ?_
  · rintro _ rfl
    rfl
  · refine ⟨rfl, fun hmore => ?_, ht.reached hreached⟩
    exact Nat.succ_le_of_lt (Nat.lt_of_le_of_lt hreached.paged (ht.lt_bound hend hmore))

/-- Pages are read while wanted, and the reading ends. -/
theorem leads_advanceWhile {wanted : List Value → Except Failure Bool}
    (hwanted : ∀ items failure, wanted items = .error failure → ¬ Plain items ∧ ¬ OfSource failure)
    (progress : Progress) :
    Effect.Leads (fun s => (progress.more = true → progress.page ≤ bound) ∧ api.Reached script progress s)
      (api.advanceWhile script.transport since wanted progress)
      (fun reached s => (reached.more = true → reached.page ≤ bound ∧ wanted reached.items = .ok false) ∧
        api.Reached script reached s)
      (api.Broken script) := by
  unfold advanceWhile
  -- a page after which more is to come is one of the first `bound`
  refine Effect.leads_repeatM
    (I := fun current s => (current.more = true → current.page ≤ bound) ∧ api.Reached script current s)
    (fun current => bound + 1 - current.page) (fun current => ?_) progress
  refine Effect.leads_of_each ?_
  rintro s ⟨hbound, hreached⟩
  by_cases hmore : current.more = true
  · rw [if_pos hmore]
    cases hgoOn : wanted current.items with
    | error failure =>
      obtain ⟨hragged, hbeneath⟩ := hwanted _ _ hgoOn
      rintro w rfl
      refine .inr ⟨failure, w, rfl, .item hreached.mild hreached.last ?_ hbeneath⟩
      exact Classical.byContradiction fun hnone => hragged (hreached.plain.2 fun i hi hragged => hnone ⟨i, hi, hragged⟩)
    | ok goOn =>
      cases goOn with
      | true =>
        have hwants : Effect.Leads (fun t => t = s) (Effect.ofExcept (.ok true)) (fun goOn t => goOn = true ∧ t = s)
            (api.Broken script) := Effect.leads_pure fun _ ht => ⟨rfl, ht⟩
        refine hwants.bind fun goOn => Effect.leads_of_fact fun hgoOn => ?_
        rw [if_pos hgoOn]
        refine (leads_advance hretries hfinite hend since hreached).bind fun next => Effect.leads_pure ?_
        rintro t ⟨hpage, hnext, ht⟩
        have hle := hbound hmore
        exact ⟨by omega, hnext, ht⟩
      | false =>
        refine Effect.leads_pure ?_
        rintro t rfl
        exact ⟨fun _ => ⟨hbound hmore, hgoOn⟩, hreached⟩
  · rw [if_neg hmore]
    refine Effect.leads_pure ?_
    rintro t rfl
    exact ⟨fun h => absurd h hmore, hreached⟩

/-- Reading a timestamp to its end comes upon nothing that was not there before. -/
theorem leads_readThrough (boundary : String) (progress : Progress) :
    Effect.Leads (fun s => (progress.more = true → progress.page ≤ bound) ∧ api.Reached script progress s)
      (api.readThrough script.transport since boundary progress) (fun _ => api.Tidy script) (api.Broken script) := by
  unfold readThrough
  refine (leads_advanceWhile hretries hfinite hend since (fun items failure hfailure => ?_) progress).bind
    fun reached => Effect.leads_of_each ?_
  · unfold allWithin at hfailure
    rcases recordsOf_cases items with ⟨records, -, hrecords⟩ | ⟨hragged, beneath, hbeneath, hnot⟩
    · rw [hrecords] at hfailure
      cases hfailure
    · rw [hbeneath] at hfailure
      cases hfailure
      exact ⟨hragged, hnot⟩
  · rintro s ⟨-, hreached⟩
    refine hreached.leads_recordsOf.bind fun records => Effect.leads_pure ?_
    rintro t ⟨⟨-, htidy⟩, rfl⟩
    exact htidy

theorem leads_readWindow {limit : Int} (hlimit : 1 ≤ limit) :
    Effect.Leads (fun s => s = []) (api.readWindow script.transport since limit) (fun _ => api.Tidy script)
      (api.Broken script) := by
  unfold readWindow
  refine ((leads_advanceWhile hretries hfinite hend since ?_ {}).weaken ?_ (fun _ _ hs => hs) fun _ _ hs => hs).bind
    fun reached => Effect.leads_of_each ?_
  · intro items failure hfailure
    cases hfailure
  · rintro _ rfl
    exact ⟨fun _ => Nat.zero_le _, reached_nothing⟩
  · rintro s ⟨hmore, hreached⟩
    refine hreached.leads_recordsOf.bind fun records => Effect.leads_of_fact ?_
    rintro ⟨hitems, htidy⟩
    have hfull : reached.more = true → limit ≤ (api.sorted records).length := by
      intro h
      have hwanted := (hmore h).2
      rw [(api.sorted_perm records).length_eq]
      simpa [hitems] using hwanted
    obtain ⟨last, hlast, -⟩ := ending_ends (api.pairwise_sorted records) hlimit hfull
    dsimp only
    rw [hlast]
    cases last with
    | upTo kept =>
      refine Effect.leads_pure ?_
      rintro t rfl
      exact htidy
    | through boundary =>
      show Effect.Leads _ (say _ _ >>= fun _ => api.readThrough script.transport since boundary _) _ _
      refine (Effect.leads_log _ _ _).bind fun _ => ?_
      refine (leads_readThrough hretries hfinite hend since boundary _).weaken ?_ (fun _ _ hs => hs) fun _ _ hs => hs
      rintro t rfl
      exact ⟨fun h => (hmore h).1, hreached.withRecords htidy _⟩

end

/-! ## 5. How a fetch ends -/

theorem Mild.quiet {i : Nat} (h : api.Mild script i) : api.reading (script i) ≠ .leak ∧ ¬ api.Overlong script i := by
  rcases h with ⟨hpassing, hslept⟩ | ⟨page, hpage⟩
  · exact ⟨by simp [hpassing], hslept⟩
  · exact ⟨by simp [hpage], not_overlong_of_reading (by simp [hpage])⟩

end PagedApi

end TableSync.Http
