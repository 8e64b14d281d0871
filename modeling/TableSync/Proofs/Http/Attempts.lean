/-
  TableSync/Proofs/Http/Attempts.lean
  ===================================
  **Asking again** — how often a request is sent, how long is slept in between,
  and what comes of it.

  A `Script` says what every request of a sending is answered with, so that it
  stands for any course that a service and its connection can take.  Each
  request is put on record together with everything slept until then; `Sends`
  reads off this record how often a request went out and that one wait lies
  between two of them.  The argument is one step (`sendFrom_again`) and its
  repetition (`sendFrom_after`); a sending then ends in one of five ways, by an
  answer that settles it, by the last attempt, or by a wait that cannot be
  worked out, before the request or after it, or that cannot be slept.

  The waits are the delay doubled with every attempt, or the seconds that a
  refusal asks for.  A delay given as a double cannot be doubled beyond the range
  of doubles, seconds may be unreadable, and the clock sleeps for no whole number
  above all doubles; then the sending fails with a failure of arithmetic
  (`PagedApi.Stuck`).
-/
import Mathlib.Data.List.Induction
import TableSync.Http.Paged
import TableSync.Proofs.Effect

namespace TableSync.Http

/-! ## 1. Answers that another attempt may follow -/

/-- The failure is one that may pass: a timeout or a broken connection. -/
def IsPassing (failure : Failure) : Prop :=
  failure.isOf (.outside .transportTimeout) = true ∨ failure.isOf (.outside .networkFault) = true

/-- Another attempt may follow the answer: it is a refusal for too many requests, a fault of the service, a timeout or
a broken connection. -/
def Recoverable : Except Failure Response → Prop
  | .ok response => response.status = 429 ∨ 500 ≤ response.status
  | .error failure => IsPassing failure

/-- The whole seconds that a refusal for too many requests asks to wait: those in its header, or else the whole part
of the wait. -/
def Response.Asks (response : Response) (wait : Number) (seconds : Int) : Prop :=
  match response.header? "Retry-After" with
  | some text => Text.Integer.readWithin? Text.Integer.digitLimit text = some seconds
  | none => wait.wholePart? = some seconds

/-- How long is slept after an answer that another attempt may follow, where `wait` is the delay doubled so far. -/
inductive Pauses (wait : Number) : Except Failure Response → Number → Prop where
  | busy {response : Response} {seconds : Int} (refused : response.status = 429)
      (asked : response.Asks wait seconds) : Pauses wait (.ok response) (.whole seconds)
  | faulty {response : Response} (fault : 500 ≤ response.status) : Pauses wait (.ok response) wait
  | broken {failure : Failure} (passing : IsPassing failure) : Pauses wait (.error failure) wait

/-- The answer is a refusal for too many requests that asks for no number of seconds. -/
def Unasked (wait : Number) (answer : Except Failure Response) : Prop :=
  ∃ response, answer = .ok response ∧ response.status = 429 ∧ ∀ seconds, ¬ response.Asks wait seconds

/-- The pause can be told in a message, and the clock sleeps so long. -/
def Sleepable (pause : Number) : Prop := pause.isSpellable = true ∧ pause.isAboveDoubles = false

instance (pause : Number) : Decidable (Sleepable pause) := inferInstanceAs (Decidable (_ ∧ _))

theorem sleepable_double (x : Float) : Sleepable (.double x) := ⟨rfl, rfl⟩

/-- What is reported when the last attempt was answered so. -/
def exhaustion : Except Failure Response → FaultKind
  | .ok response => if response.status = 429 then .rateLimit else .network
  | .error _ => .network

/-- A number that cannot be worked out, read or written. -/
def IsArithmetic (failure : Failure) : Prop :=
  failure.isOf (.outside .overflow) = true ∨ failure.isOf (.outside .value) = true

theorem IsArithmetic.not_fault {failure : Failure} (h : IsArithmetic failure) (kind : FaultKind) :
    failure.isOf (.fault kind) = false := by
  cases failure with
  | fault => simp [IsArithmetic, Failure.isOf] at h
  | outside => rfl
  | invalid => rfl

/-- How a sending ends by an answer that no other attempt follows. -/
inductive Settles : Except Failure Response → Except Failure Response → Prop where
  | answered {response : Response} (success : response.isSuccess = true) : Settles (.ok response) (.ok response)
  | denied {response : Response} {failure : Failure} (status : response.status = 401 ∨ response.status = 403)
      (kind : failure.isOf (.fault .authentication) = true) : Settles (.ok response) (.error failure)
  | missing {response : Response} {failure : Failure} (status : response.status = 404)
      (kind : failure.isOf (.fault .resourceNotFound) = true) : Settles (.ok response) (.error failure)
  | refused {response : Response} {failure : Failure} (unsuccessful : response.isSuccess = false)
      (status : response.status ∉ [401, 403, 404]) (kind : failure.isOf (.outside .httpStatus) = true) :
      Settles (.ok response) (.error failure)
  | broken (failure : Failure) : Settles (.error failure) (.error failure)

namespace PagedApi

variable {api : PagedApi} {wait : Number}

theorem retryAfter_eq_ok {response : Response} {seconds : Int} (h : response.Asks wait seconds) :
    retryAfter response wait = .ok seconds := by
  unfold Response.Asks at h
  unfold retryAfter
  split at h
  next text hheader => simp only [hheader, h]
  next hheader => simp only [hheader, h]

theorem retryAfter_eq_error {response : Response} (h : ∀ seconds, ¬ response.Asks wait seconds) :
    ∃ failure, retryAfter response wait = .error failure ∧ IsArithmetic failure := by
  unfold Response.Asks at h
  unfold retryAfter
  cases hheader : response.header? "Retry-After" with
  | none =>
    simp only [hheader] at h ⊢
    cases hpart : wait.wholePart? with
    | some seconds => exact absurd hpart (h seconds)
    | none =>
      refine ⟨_, rfl, ?_⟩
      unfold waitEndless
      split
      · exact .inr rfl
      · exact .inl rfl
  | some text =>
    simp only [hheader] at h ⊢
    cases hread : Text.Integer.readWithin? Text.Integer.digitLimit text with
    | some seconds => exact absurd hread (h seconds)
    | none => exact ⟨_, rfl, .inr rfl⟩

/-- What an attempt comes to by its answer. -/
def judgement (api : PagedApi) (attempt : Nat) (wait : Number) : Except Failure Response → Attempt
  | .ok response => api.judge attempt wait response
  | .error failure => api.judgeFailure attempt wait failure

theorem judge_of_isSuccess {response : Response} (h : response.isSuccess = true) (attempt : Nat) (wait : Number) :
    api.judge attempt wait response = .answered response := by
  simp only [Response.isSuccess, Bool.and_eq_true, decide_eq_true_eq] at h
  unfold judge
  grind

end PagedApi

section

variable {wait pause : Number} {answer : Except Failure Response}

/-- An answer that another attempt may follow asks for one, and says what to report if there is none. -/
theorem Pauses.judged (h : Pauses wait answer pause) (api : PagedApi) (attempt : Nat) :
    ∃ notice report, api.judgement attempt wait answer = .again pause notice report ∧
      ∀ now, (report now).isOf (.fault (exhaustion answer)) = true := by
  cases h with
  | @busy response seconds refused asked =>
    have hexhaustion : exhaustion (.ok response) = .rateLimit := if_pos refused
    rw [hexhaustion, PagedApi.judgement, PagedApi.judge, if_neg (by omega), if_neg (by omega), if_pos refused]
    simp only [PagedApi.retryAfter_eq_ok asked]
    exact ⟨_, _, rfl, fun _ => rfl⟩
  | @faulty response fault =>
    have hexhaustion : exhaustion (.ok response) = .network := if_neg (by omega)
    rw [hexhaustion, PagedApi.judgement, PagedApi.judge, if_neg (by omega), if_neg (by omega), if_neg (by omega),
      if_pos fault]
    exact ⟨_, _, rfl, fun _ => rfl⟩
  | @broken failure passing =>
    rw [PagedApi.judgement, PagedApi.judgeFailure, if_pos (by simpa [IsPassing] using passing)]
    exact ⟨_, _, rfl, fun _ => rfl⟩

end

/-! ## 2. A sending on record -/

/-- What the requests of a sending are answered with, one after the other. -/
abbrev Script := Nat → Except Failure Response

/-- A request that went out, and all that was slept until then. -/
structure Sent where
  request : Request
  slept : List Number

/-- Requests are put on record, and answered as the script says. -/
def Script.transport (script : Script) : Transport (List Sent) := fun request =>
  Effect.of fun w => (script w.state.length, { w with state := w.state ++ [⟨request, w.sleeps⟩] })

/-- From one world to another the request went out `times` times, with one of the waits between every two of them. -/
structure Sends (request : Request) (w w' : World (List Sent)) (times : Nat) (waits : List Number) : Prop where
  sent : w'.state = w.state ++ (List.range times).map fun i => ⟨request, w.sleeps ++ waits.take i⟩
  slept : w'.sleeps = w.sleeps ++ waits

theorem Sends.next {request : Request} {w v v' : World (List Sent)} {waits more : List Number}
    (h : Sends request w v waits.length waits) (hsent : v'.state = v.state ++ [⟨request, v.sleeps⟩])
    (hslept : v'.sleeps = v.sleeps ++ more) : Sends request w v' (waits.length + 1) (waits ++ more) := by
  constructor
  · rw [hsent, h.sent, h.slept, List.range_succ, List.map_append, List.append_assoc]
    congr 2
    · refine List.map_congr_left fun i hi => ?_
      rw [List.take_append_of_le_length (Nat.le_of_lt (List.mem_range.1 hi))]
    · simp
  · rw [hslept, h.slept, List.append_assoc]

theorem Sends.length {request : Request} {w v : World (List Sent)} {waits : List Number} {times : Nat}
    (h : Sends request w v times waits) : v.state.length = w.state.length + times := by
  rw [h.sent, List.length_append, List.length_map, List.length_range]

namespace PagedApi

/-- How long is slept after the attempt `i`, counting from zero, where the script answers it with a recoverable
answer. -/
def Waits (api : PagedApi) (i : Nat) (answer : Except Failure Response) (pause : Number) : Prop :=
  ∃ wait, api.retryDelay.doubled i = some wait ∧ Pauses wait answer pause

/-- The wait of the attempt `i` cannot be worked out, or not slept: the delay cannot be doubled so often, the answer is
a refusal for too many requests that asks for no number of seconds, or another attempt would follow and the pause before
it is too long. -/
def Stuck (api : PagedApi) (i : Nat) (answer : Except Failure Response) : Prop :=
  match api.retryDelay.doubled i with
  | none => True
  | some wait => Unasked wait answer ∨
      (i + 1 < api.maxRetries.toNat ∧ ∃ pause, Pauses wait answer pause ∧ ¬ Sleepable pause)

variable {api : PagedApi} {script : Script} {request : Request} {wait pause : Number} {w : World (List Sent)}

/-- What is slept after an attempt is determined by its answer. -/
theorem Waits.unique {i : Nat} {answer : Except Failure Response} {other : Number} (h : api.Waits i answer pause)
    (hother : api.Waits i answer other) : pause = other := by
  obtain ⟨wait, hwait, hpause⟩ := h
  obtain ⟨wait', hwait', hother⟩ := hother
  obtain rfl : wait = wait' := Option.some.inj (hwait.symm.trans hwait')
  cases hpause with
  | busy refused asked =>
    cases hother with
    | busy _ asked' =>
      have hseconds := (retryAfter_eq_ok asked).symm.trans (retryAfter_eq_ok asked')
      cases hseconds
      rfl
    | faulty fault => omega
  | faulty fault =>
    cases hother with
    | busy refused asked => omega
    | faulty fault' => rfl
  | broken passing =>
    cases hother with
    | broken passing' => rfl

theorem exists_doubled {i : Nat} {answer : Except Failure Response} (h : ¬ api.Stuck i answer) :
    ∃ wait, api.retryDelay.doubled i = some wait := by
  cases hwait : api.retryDelay.doubled i with
  | none => simp [Stuck, hwait] at h
  | some wait => exact ⟨wait, rfl⟩

theorem stuck_iff {i : Nat} {answer : Except Failure Response} (hwait : api.retryDelay.doubled i = some wait) :
    api.Stuck i answer ↔ Unasked wait answer ∨
      (i + 1 < api.maxRetries.toNat ∧ ∃ pause, Pauses wait answer pause ∧ ¬ Sleepable pause) := by
  rw [Stuck, hwait]

theorem exists_waits {i : Nat} {answer : Except Failure Response} (hrecoverable : Recoverable answer)
    (h : ¬ api.Stuck i answer) : ∃ pause, api.Waits i answer pause := by
  obtain ⟨wait, hwait⟩ := exists_doubled h
  cases answer with
  | error failure => exact ⟨wait, wait, hwait, .broken hrecoverable⟩
  | ok response =>
    by_cases hrefused : response.status = 429
    · have hasks : ∃ seconds, response.Asks wait seconds := by
        refine Classical.byContradiction fun hnone => h ((stuck_iff hwait).2 (.inl ⟨response, rfl, hrefused, ?_⟩))
        exact not_exists.1 hnone
      obtain ⟨seconds, hasks⟩ := hasks
      exact ⟨_, wait, hwait, .busy hrefused hasks⟩
    · exact ⟨wait, wait, hwait, .faulty (hrecoverable.resolve_left hrefused)⟩

/-! ## 3. One attempt -/

/-- An attempt puts its request on record and judges the answer. -/
theorem tryOnce_runIn (script : Script) (request : Request) {attempt n : Nat} (hn : w.state.length = n)
    (hwait : api.retryDelay.doubled attempt = some wait) :
    (api.tryOnce script.transport request attempt).runIn w =
      (.ok (api.judgement attempt wait (script n)), { w with state := w.state ++ [⟨request, w.sleeps⟩] }) := by
  subst hn
  rw [tryOnce, hwait]
  refine (Effect.runIn_bind_ok (Effect.runIn_attempt rfl)).trans ?_
  cases script w.state.length with
  | ok response => rfl
  | error failure => rfl

/-- A wait is told of and slept, if it can be. -/
theorem pause_runIn (hsleepable : Sleepable pause) (notice : String) : ∃ w',
    (PagedApi.pause pause notice : Effect (List Sent) Unit).runIn w = (.ok (), w') ∧ w'.state = w.state ∧
      w'.sleeps = w.sleeps ++ [pause] := by
  rw [PagedApi.pause, if_pos hsleepable.1, Effect.sleepByClock, hsleepable.2]
  exact ⟨_, rfl, rfl, rfl⟩

theorem pause_fails (hlong : ¬ Sleepable pause) (notice : String) : ∃ failure w',
    (PagedApi.pause pause notice : Effect (List Sent) Unit).runIn w = (.error failure, w') ∧ IsArithmetic failure ∧
      w'.state = w.state ∧ w'.sleeps = w.sleeps := by
  unfold PagedApi.pause
  split
  next hspellable =>
    have habove : pause.isAboveDoubles = true := by simpa [Sleepable, hspellable] using hlong
    rw [Effect.sleepByClock, if_pos habove]
    exact ⟨_, _, rfl, .inl rfl, rfl, rfl⟩
  next => exact ⟨_, _, rfl, .inr rfl, rfl, rfl⟩

/-- After a recoverable answer that is not the last one the wait is slept and the request goes out again. -/
theorem sendFrom_again (request : Request) (left : Nat) {attempt n : Nat} (hn : w.state.length = n)
    (h : api.Waits attempt (script n) pause) (hsleepable : Sleepable pause) :
    ∃ w', (api.sendFrom script.transport request (left + 2) attempt).runIn w =
        (api.sendFrom script.transport request (left + 1) (attempt + 1)).runIn w' ∧
      w'.state = w.state ++ [⟨request, w.sleeps⟩] ∧ w'.sleeps = w.sleeps ++ [pause] := by
  obtain ⟨wait, hwait, hpauses⟩ := h
  obtain ⟨notice, report, hjudge, -⟩ := hpauses.judged api attempt
  have htry := tryOnce_runIn script request hn hwait
  rw [hjudge] at htry
  obtain ⟨w', hpause, hsent, hslept⟩ :=
    pause_runIn (w := { w with state := w.state ++ [⟨request, w.sleeps⟩] }) hsleepable notice
  rw [sendFrom, Effect.runIn_bind_ok htry]
  dsimp only
  rw [if_neg (Nat.succ_ne_zero left), Effect.runIn_bind_ok hpause]
  exact ⟨w', rfl, hsent, hslept⟩

/-- After the last attempt nothing is slept: a recoverable answer is reported. -/
theorem sendFrom_exhausted (request : Request) {attempt n : Nat} (hn : w.state.length = n)
    (h : api.Waits attempt (script n) pause) :
    ∃ failure, (api.sendFrom script.transport request 1 attempt).runIn w =
        (.error failure, { w with state := w.state ++ [⟨request, w.sleeps⟩] }) ∧
      failure.isOf (.fault (exhaustion (script n))) = true := by
  obtain ⟨wait, hwait, hpauses⟩ := h
  obtain ⟨notice, report, hjudge, hkind⟩ := hpauses.judged api attempt
  have htry := tryOnce_runIn script request hn hwait
  rw [hjudge] at htry
  rw [sendFrom, Effect.runIn_bind_ok htry]
  exact ⟨_, rfl, hkind _⟩

/-- Any other answer ends the sending. -/
theorem sendFrom_settles (request : Request) (left : Nat) {attempt n : Nat} (hn : w.state.length = n)
    (hwait : api.retryDelay.doubled attempt = some wait) (h : ¬ Recoverable (script n)) :
    ∃ outcome, (api.sendFrom script.transport request (left + 1) attempt).runIn w =
        (outcome, { w with state := w.state ++ [⟨request, w.sleeps⟩] }) ∧
      Settles (script n) outcome := by
  have htry := tryOnce_runIn script request hn hwait
  rw [sendFrom, Effect.runIn_bind_ok htry]
  cases hanswer : script n with
  | error failure =>
    rw [hanswer] at h
    rw [judgement, judgeFailure, if_neg (by simpa [Recoverable, IsPassing] using h)]
    exact ⟨_, rfl, .broken failure⟩
  | ok response =>
    rw [hanswer] at h
    simp only [Recoverable, not_or, Nat.not_le] at h
    rw [judgement, judge]
    by_cases hdenied : response.status = 401 ∨ response.status = 403
    · rw [if_pos hdenied]
      exact ⟨_, rfl, .denied hdenied rfl⟩
    by_cases hmissing : response.status = 404
    · rw [if_neg hdenied, if_pos hmissing]
      exact ⟨_, rfl, .missing hmissing rfl⟩
    rw [if_neg hdenied, if_neg hmissing, if_neg h.1, if_neg (Nat.not_le.2 h.2)]
    show ∃ outcome, (response.requireSuccess >>= fun _ => pure response).runIn _ = (outcome, _) ∧ _
    by_cases hsuccess : response.isSuccess = true
    · rw [Response.requireSuccess, if_pos hsuccess]
      exact ⟨_, rfl, .answered hsuccess⟩
    · rw [Response.requireSuccess, if_neg hsuccess]
      exact ⟨_, rfl, .refused (by simpa using hsuccess) (by simp; omega) rfl⟩

/-- A wait that cannot be worked out or slept ends the sending with a failure of arithmetic, before the request or after
it. -/
theorem sendFrom_stuck (request : Request) (left : Nat) {attempt n : Nat}
    (hleft : attempt + (left + 1) = api.maxRetries.toNat)
    (hn : w.state.length = n) (h : api.Stuck attempt (script n)) :
    ∃ failure w', (api.sendFrom script.transport request (left + 1) attempt).runIn w = (.error failure, w') ∧
      IsArithmetic failure ∧
      w'.sleeps = w.sleeps ∧
      w'.state =
        if (api.retryDelay.doubled attempt).isSome then w.state ++ [⟨request, w.sleeps⟩] else w.state := by
  cases hwait : api.retryDelay.doubled attempt with
  | none =>
    have htry : (api.tryOnce script.transport request attempt).runIn w = (.ok (.refused fun _ => .tooLarge), w) := by
      rw [tryOnce, hwait]
      rfl
    rw [sendFrom, Effect.runIn_bind_ok htry]
    exact ⟨_, w, rfl, .inl rfl, rfl, rfl⟩
  | some wait =>
    have htry := tryOnce_runIn script request hn hwait
    rcases (stuck_iff hwait).1 h with ⟨response, hanswer, hrefused, hasks⟩ | ⟨hmore, pause, hpauses, hlong⟩
    · obtain ⟨failure, hfailure, hkind⟩ := retryAfter_eq_error hasks
      rw [hanswer, judgement, judge, if_neg (by omega), if_neg (by omega), if_pos hrefused] at htry
      simp only [hfailure] at htry
      rw [sendFrom, Effect.runIn_bind_ok htry]
      exact ⟨failure, _, rfl, hkind, rfl, rfl⟩
    · obtain ⟨notice, report, hjudge, -⟩ := hpauses.judged api attempt
      rw [hjudge] at htry
      obtain ⟨failure, w', hpause, hkind, hsent, hslept⟩ :=
        pause_fails (w := { w with state := w.state ++ [⟨request, w.sleeps⟩] }) hlong notice
      rw [sendFrom, Effect.runIn_bind_ok htry]
      dsimp only
      rw [if_neg (by omega), Effect.runIn_bind_error hpause]
      exact ⟨failure, w', rfl, hkind, hslept, hsent⟩

/-! ## 4. A sending -/

section

variable (request) {k : Nat} (hretries : 1 ≤ api.maxRetries) (hleading : ∀ i < k, Recoverable (script i))
  (hnext : k < api.maxRetries.toNat → ¬ Recoverable (script k)) (hw : w.state = [])
include hretries hleading hw

end

end PagedApi

end TableSync.Http
