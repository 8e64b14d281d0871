/-
  TableSync/Record/Dedup.lean
  ===========================
  **One record per key** — the newest of each.

  `Dedup.keep` goes through the records once and holds a winner per key, in the
  order in which the keys first occur.  A later record replaces the winner
  unless its ordering value is less; null is less than every value.  Ordering
  values of one key that have no order are a failure.
-/
import TableSync.Record.Prepared
import TableSync.Value.Order

namespace TableSync.Dedup

/-- The ordering values of two records of one key have no order. -/
def notComparable (candidate current : PreparedRecord) (now : Timestamp) : Failure :=
  .report .recordPreparation "Ordering values of duplicate records are not comparable"
    [("record_key", .text candidate.key.recordKey),
     ("values", .list [.text current.ordering.literal, .text candidate.ordering.literal])]
    now (some (.outside .type (candidate.ordering.noOrder current.ordering) false))

/-- The candidate is older than the record that is kept so far. -/
def precedes (candidate current : PreparedRecord) (now : Timestamp) : Except Failure Bool :=
  match candidate.ordering, current.ordering with
  | .null, .null => .ok false
  | .null, _ => .ok true
  | _, .null => .ok false
  | a, b =>
    match a.less? b with
    | some less => .ok less
    | none => .error (notComparable candidate current now)

/-- The winners after one more record. -/
def insert (record : PreparedRecord) (now : Timestamp) : List PreparedRecord → Except Failure (List PreparedRecord)
  | [] => .ok [record]
  | winner :: rest =>
    if winner.key = record.key then do
      let older ← precedes record winner now
      return (if older then winner else record) :: rest
    else do
      return winner :: (← insert record now rest)

/-- The winners of a batch, continuing from `winners`. -/
def keepFrom (winners records : List PreparedRecord) (now : Timestamp) : Except Failure (List PreparedRecord) :=
  match records with
  | [] => .ok winners
  | record :: rest => do keepFrom (← insert record now winners) rest now

/-- The newest record of each key, in the order in which the keys first occur. -/
def keep (records : List PreparedRecord) (now : Timestamp) : Except Failure (List PreparedRecord) :=
  keepFrom [] records now

/-- Keep the newest record of each key, and say in the log how many were dropped. -/
def run {σ : Type} (records : List PreparedRecord) : Effect σ (List PreparedRecord) := do
  let winners ← Effect.ofExcept (keep records (← Effect.now))
  let dropped := records.length - winners.length
  if dropped ≠ 0 then
    Effect.log .info .preparation ("Dropped " ++ toString dropped ++ " duplicate records, " ++
      toString winners.length ++ " remain")
  return winners

end TableSync.Dedup
