/-
  TableSync/Http/Paged.lean
  =========================
  **A service of pages as a source** — records newer than a checkpoint, page
  by page.

  The checkpoint is the greatest timestamp among the records that were read.
  The next window begins strictly after it, so a window may end only between
  two different timestamps: what was read of the last timestamp is left for
  the next window, unless that timestamp is all there is, in which case all of
  it is read.  A page is asked for again after a refusal, a fault of the
  service or a broken connection, with a wait that doubles each time.
-/
import TableSync.Http.Exchange
import TableSync.Json.Reader
import TableSync.Source
import TableSync.Text.Integer

namespace TableSync.Http

/-! ## 1. The service -/

/-- A service of pages and how it is asked. -/
structure PagedApi where
  sourceName : String
  url : String
  apiKey : Option String := none
  timestampField : String := "updated_at"
  pageSize : Int := 100
  maxRetries : Int := 3
  retryDelay : Number := .double 1.0
  timeout : Number := .double 30.0
  provider : Option SchemaProvider := none
deriving Inhabited

namespace PagedApi

/-- Log a line about the service. -/
def say {σ : Type} (level : LogLevel) (message : String) : Effect σ Unit := Effect.log level .http message

/-- The facts about the service in a failure. -/
def facts (api : PagedApi) : Fields Value :=
  [("source_name", .text api.sourceName), ("api_url", .text api.url)]

/-- The request for a page of what is newer than a checkpoint; an empty checkpoint is none. -/
def request (api : PagedApi) (since : Option String) (page : Nat) : Request :=
  { method := .get
    url := address api.url
    params := [("page_size", toString api.pageSize), ("page", toString page)] ++ (match since with
      | some checkpoint => if checkpoint.isEmpty then [] else [("since", checkpoint)]
      | none => [])
    authorization := bearer api.apiKey
    contentType := some jsonContent }

/-! ## 2. One page, asked for again after a fault -/

/-- What an attempt comes to. -/
inductive Attempt where
  /-- The service answered. -/
  | answered (response : Response)
  /-- It may answer after a wait; until then the failure stands. -/
  | again (wait : Number) (notice : String) (failure : Timestamp → Failure)
  /-- It will not answer. -/
  | refused (failure : Timestamp → Failure)

/-- The failure of cutting a wait that has no whole part. -/
def waitEndless (wait : Number) : Failure :=
  if wait.toFloat.isNaN then .outside .value "cannot convert float NaN to integer" false
  else .outside .overflow "cannot convert float infinity to integer" false

/-- The wait that a refusal for too many requests asks for: whole seconds, by default the wait cut short. -/
def retryAfter (response : Response) (wait : Number) : Except Failure Int :=
  match response.header? "Retry-After" with
  | none =>
    match wait.wholePart? with
    | some seconds => .ok seconds
    | none => .error (waitEndless wait)
  | some text =>
    match Text.Integer.readWithin? Text.Integer.digitLimit text with
    | some seconds => .ok seconds
    | none => .error (.outside .value ("invalid literal for int() with base 10: " ++ Text.quoted text) false)

/-- What the attempt that counts from zero comes to when the service responds. -/
def judge (api : PagedApi) (attempt : Nat) (wait : Number) (response : Response) : Attempt :=
  let status : Value := .int response.status
  let count : Value := .int (attempt + 1)
  if response.status = 401 ∨ response.status = 403 then
    .refused fun now => .report .authentication ("Authentication failed for " ++ api.url)
      (api.facts ++ [("status_code", status)]) now none
  else if response.status = 404 then
    .refused fun now => .report .resourceNotFound ("Resource not found: " ++ api.url)
      (api.facts ++ [("status_code", status)]) now none
  else if response.status = 429 then
    match retryAfter response wait with
    | .error failure => .refused fun _ => failure
    | .ok seconds =>
      .again (.whole seconds) ("Rate limited. Retrying after " ++ toString seconds ++ " seconds") fun now =>
        .rateLimited ("Rate limit exceeded for " ++ api.url) (api.facts ++ [("retry_count", count)]) now none
          (some (.whole seconds))
  else if 500 ≤ response.status then
    .again wait ("Server error " ++ toString response.status ++ ". Retrying in " ++ wait.text ++
        " seconds (attempt " ++ toString (attempt + 1) ++ "/" ++ toString api.maxRetries ++ ")") fun now =>
      .report .network ("Server error after " ++ toString api.maxRetries ++ " attempts")
        (api.facts ++ [("status_code", status), ("retry_count", count),
          ("response_body", .text response.excerpt)]) now none
  else .answered response

/-- What an attempt comes to when there is no response: timeouts and broken connections may pass. -/
def judgeFailure (api : PagedApi) (attempt : Nat) (wait : Number) (cause : Failure) : Attempt :=
  if cause.isOf (.outside .transportTimeout) || cause.isOf (.outside .networkFault) then
    .again wait (cause.name ++ " from " ++ api.url ++ ". Retrying in " ++ wait.text ++ " seconds") fun now =>
      .report .network ("Request failed after " ++ toString api.maxRetries ++ " attempts")
        (api.facts ++ [("retry_count", .int (attempt + 1))]) now (some cause)
  else .refused fun _ => cause

variable {σ : Type}

/-- Send a request and judge what comes of it; the wait after it is known before. -/
def tryOnce (api : PagedApi) (transport : Transport σ) (request : Request) (attempt : Nat) : Effect σ Attempt :=
  match api.retryDelay.doubled attempt with
  | none => return .refused fun _ => .tooLarge
  | some wait => do
    match ← (transport request).attempt with
    | .ok response => return api.judge attempt wait response
    | .error cause => return api.judgeFailure attempt wait cause

/-- Tell of a wait and sleep; the wait must be one that can be told. -/
def pause (wait : Number) (notice : String) : Effect σ Unit := do
  if wait.isSpellable then
    say .warning notice
    Effect.sleepByClock wait
  else Effect.fail .tooManyDigits

/-- Send a request for the `attempt`th time, counting from zero, with `left` attempts allowed. -/
def sendFrom (api : PagedApi) (transport : Transport σ) (request : Request) : Nat → Nat → Effect σ Response
  | 0, _ => Effect.report .network "Max retries exceeded" api.facts none
  | left + 1, attempt => do
    match ← api.tryOnce transport request attempt with
    | .answered response =>
      response.requireSuccess
      return response
    | .refused failure => Effect.fail (failure (← Effect.now))
    | .again wait notice failure =>
      if left = 0 then Effect.fail (failure (← Effect.now))
      else
        pause wait notice
        sendFrom api transport request left (attempt + 1)

/-- Send a request, again if need be. -/
def send (api : PagedApi) (transport : Transport σ) (request : Request) : Effect σ Response :=
  sendFrom api transport request api.maxRetries.toNat 0

/-! ## 3. What a page holds -/

/-- The failure of a value that should have had fields. -/
def withoutFields (value : Value) : Failure :=
  .outside .attribute ("'" ++ value.kindName ++ "' object has no attribute 'get'") false

/-- The items of a page, and whether another page follows it. -/
structure Page where
  items : List Value := []
  more : Bool := false
deriving Inhabited

/-- The values that a non-empty field of records holds one after the other. -/
def itemsOf : Value → Except Failure (List Value)
  | .list items => .ok items
  | .object fields => .ok (fields.map fun field => .text field.1)
  | .text s => .ok (s.toList.map fun c => .text (String.singleton c))
  | value => .error (.outside .type ("'" ++ value.kindName ++ "' object is not iterable") false)

/-- The page in a body: a list, which is followed by another page if it is full, or an object that has
the records in a field and says whether more follow. -/
def pageOf (api : PagedApi) : Value → Except Failure Page
  | .list items => .ok (if items.isEmpty then {} else ⟨items, api.pageSize ≤ items.length⟩)
  | .object fields => do
    let held := ((Fields.get? fields "data").orElse fun _ => Fields.get? fields "results").getD (.list [])
    if held.isBlank then return {}
    else
      let more := ((Fields.get? fields "has_next").map fun v => !v.isBlank).getD false
      return ⟨← itemsOf held, more⟩
  | value => .error (withoutFields value)

/-- A body without the mark that may stand in front of it. -/
def withoutMark (body : String) : String :=
  match body.toList with
  | '\uFEFF' :: rest => String.ofList rest
  | _ => body

/-- Fetch a page. -/
def fetchPage (api : PagedApi) (transport : Transport σ) (since : Option String) (page : Nat) : Effect σ Page := do
  say .info ("Fetching page " ++ toString page ++ " from " ++ api.url)
  let response ← api.send transport (api.request since page)
  match Json.read? (withoutMark response.body) with
  | some value => Effect.ofExcept (api.pageOf value)
  | none =>
    Effect.report .sourceRead "Failed to parse JSON response"
      [("source_name", .text api.sourceName), ("page", .int page), ("response_body", .text response.excerpt)]
      (some (.outside .jsonDecoding "the text is not a JSON document" false))

/-! ## 4. Records and their timestamps -/

/-- The timestamp of a record; a blank one is empty text. -/
def timestamp (api : PagedApi) (record : Record) : String :=
  match Fields.get? record api.timestampField with
  | some value => if value.isBlank then "" else value.display
  | none => ""

/-- The items of pages as records. -/
def recordsOf : List Value → Except Failure (List Record)
  | [] => .ok []
  | .object fields :: rest => do return fields :: (← recordsOf rest)
  | item :: _ => .error (withoutFields item)

/-- Records in the order of their timestamps, equal ones in the order of arrival. -/
def sorted (api : PagedApi) (records : List Record) : List Record :=
  records.mergeSort fun a b => decide (api.timestamp a ≤ api.timestamp b)

/-- The greater of two timestamps, if there is one so far. -/
def greater : Option String → String → Option String
  | none, t => some t
  | some best, t => some (if best < t then t else best)

/-- The greatest timestamp of records that have one. -/
def latest? (api : PagedApi) (records : List Record) : Option String :=
  ((records.map api.timestamp).filter fun t => !t.isEmpty).foldl greater none

/-! ## 5. A window -/

/-- Where a window of sorted records ends. -/
inductive Ending where
  /-- With these records. -/
  | upTo (records : List Record)
  /-- With all records up to a timestamp that fills the window by itself. -/
  | through (boundary : String)
deriving Inhabited

/-- More records of a timestamp come after a cut, or may come on the pages that follow. -/
def straddles (api : PagedApi) (boundary : String) (more : Bool) : List Record → Bool
  | next :: _ => more || api.timestamp next == boundary
  | [] => more

/-- Where the window of sorted records ends, given whether more pages follow. -/
def ending (api : PagedApi) (limit : Int) (more : Bool) (records : List Record) : Except Failure Ending :=
  if !more && records.length ≤ limit then .ok (.upTo records)
  else
    let cut := min records.length limit.toNat
    match records.take cut |>.getLast? with
    | none => .error (.outside .index "list index out of range" false)
    | some last =>
      let boundary := api.timestamp last
      let before := (records.take cut).filter fun record => decide (api.timestamp record < boundary)
      if !api.straddles boundary more (records.drop cut) then .ok (.upTo (records.take cut))
      else if before.isEmpty then .ok (.through boundary)
      else .ok (.upTo before)

/-- A reading in progress: the last page and the items so far. -/
structure Progress where
  page : Nat := 0
  items : List Value := []
  more : Bool := true
deriving Inhabited

/-- Fetch the next page. -/
def advance (api : PagedApi) (transport : Transport σ) (since : Option String) (progress : Progress) :
    Effect σ Progress := do
  let page ← api.fetchPage transport since (progress.page + 1)
  return { page := progress.page + 1, items := progress.items ++ page.items, more := page.more }

/-- Fetch pages while there are more and `wanted` says so. -/
def advanceWhile (api : PagedApi) (transport : Transport σ) (since : Option String)
    (wanted : List Value → Except Failure Bool) : Progress → Effect σ Progress :=
  repeatM fun progress => do
    if progress.more then
      if ← Effect.ofExcept (wanted progress.items) then
        return .inl (← api.advance transport since progress)
      else return .inr progress
    else return .inr progress

/-- No record so far is later than a timestamp. -/
def allWithin (api : PagedApi) (boundary : String) (items : List Value) : Except Failure Bool := do
  return (← recordsOf items).all fun record => decide (api.timestamp record ≤ boundary)

/-- Read a timestamp that fills the window by itself to its end. -/
def readThrough (api : PagedApi) (transport : Transport σ) (since : Option String) (boundary : String)
    (progress : Progress) : Effect σ (Progress × List Record) := do
  let progress ← api.advanceWhile transport since (api.allWithin boundary) progress
  let records ← Effect.ofExcept (recordsOf progress.items)
  return (progress, api.sorted (records.filter fun record => decide (api.timestamp record ≤ boundary)))

/-- Read the records of a window. -/
def readWindow (api : PagedApi) (transport : Transport σ) (since : Option String) (limit : Int) :
    Effect σ (Progress × List Record) := do
  let progress ← api.advanceWhile transport since (fun items => .ok ((items.length : Int) < limit)) {}
  let records := api.sorted (← Effect.ofExcept (recordsOf progress.items))
  match ← Effect.ofExcept (api.ending limit progress.more records) with
  | .upTo kept => return (progress, kept)
  | .through boundary =>
    say .warning ("More than " ++ toString limit ++ " records share timestamp " ++ boundary ++
      ", reading past the source limit")
    api.readThrough transport since boundary { progress with items := records.map .object }

/-- Fetch the records that are newer than a checkpoint. -/
def fetch (api : PagedApi) (transport : Transport σ) : Fetch σ (List Record) := fun checkpoint limit => do
  let (progress, records) ← api.readWindow transport checkpoint limit
  let reached := (api.latest? records).orElse fun _ => checkpoint
  say .info ("Fetched " ++ toString records.length ++ " records from " ++ api.sourceName ++ " (" ++
    toString progress.page ++ " pages), next checkpoint " ++ Value.optionText reached)
  return ⟨some records, reached, api.provider⟩

/-- The service as a source of records. -/
def source (api : PagedApi) (transport : Transport σ) : Source σ := .records (api.fetch transport)

end PagedApi

end TableSync.Http
