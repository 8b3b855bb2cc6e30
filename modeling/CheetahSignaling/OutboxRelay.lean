import CheetahSignaling.GuardedRun
import CheetahSignaling.KeyMap
import CheetahSignaling.SqlStore

/-! The table `outbox_events` and the relays that publish from it: `OutboxRelay::run_once` with
`EventService`. A relay reads a batch, publishes its events one by one and records the results, a
statement at a time. Statements of different relays interleave in any order. A transaction that is
rolled back is one whose statements were not executed, so a storage error and a crash both end a
relay before its next statement. -/
namespace CheetahSignaling.OutboxRelay

abbrev EventId := Nat

structure Event (P : Type) where
  eventId : EventId
  occurredAt : UtcTimestamp
  payload : P

structure OutboxRow (P : Type) where
  event : Event P
  published : Bool
  attempts : Nat
  failed : Bool
  nextAttemptAt : Option UtcTimestamp
  error : Option String

structure OutboxEntry (P : Type) where
  event : Event P
  published : Bool
  attempts : Nat
  failed : Bool
  error : Option String
  nextAttemptAt : Option UtcTimestamp

def maxAttempts : Nat := 10
def baseBackoffMs : Nat := 100

abbrev Table (P : Type) := KeyMap EventId (OutboxRow P)

section Outbox

variable {P : Type} (rows : Table P)

/-- The key makes a second row for an event an error. -/
def append (event : Event P) : Table P :=
  match rows.lookup event.eventId with
  | some _ => rows
  | none => rows.insert event.eventId ⟨event,false,0,false,none,none⟩

variable (store : SqlStore) (eventId : EventId) (now : UtcTimestamp) (row : OutboxRow P)

/-- The column is read `as u32`. -/
def OutboxRow.entry : OutboxEntry P :=
  ⟨row.event,row.published,row.attempts % 2 ^ 32,row.failed,row.error,row.nextAttemptAt⟩

def OutboxRow.due : Bool := !row.published && !row.failed && row.nextAttemptAt.all (store.le · now)

def pending (limit : Nat) : List (OutboxEntry P) :=
  let selected := (rows.entries.map (·.2)).filter (OutboxRow.due store now)
  ((selected.mergeSort fun a b => store.le a.event.occurredAt b.event.occurredAt).take limit).map OutboxRow.entry

/-- `UPDATE outbox_events SET .. WHERE event_id = ?` -/
def update (change : OutboxRow P → OutboxRow P) : Table P :=
  rows.sweep fun id row => some (if id = eventId then change row else row)

def markPublished : Table P := update rows eventId fun row => { row with published := true }

def markFailed (attempts : Nat) (failed : Bool) (error : Option String)
    (nextAttemptAt : Option UtcTimestamp) : Table P :=
  update rows eventId fun row => { row with attempts, failed, error, nextAttemptAt }

end Outbox

section Service

variable {P : Type} (store : SqlStore) (hash : EventId → Nat)

def backoffMs (eventId : EventId) (attempts : Nat) : Nat :=
  let backoff := baseBackoffMs * 2 ^ min attempts 20
  let jitterRange := backoff / 4
  backoff + if jitterRange > 0 then hash eventId % jitterRange else 0

def retryAt (now : UtcTimestamp) (ms : Nat) : UtcTimestamp :=
  if now + ms * 1000000 < 253402300800000000000 then now + ms * 1000000 else now

/-- The statement of `record_results` for one entry. -/
def record (now : UtcTimestamp) (rows : Table P) (entry : OutboxEntry P) : Except String Unit → Table P
  | .ok () => markPublished rows entry.event.eventId
  | .error text =>
    let attempts := (entry.attempts + 1) % 2 ^ 32
    if attempts ≥ maxAttempts then markFailed rows entry.event.eventId attempts true (some text) none
    else
      markFailed rows entry.event.eventId attempts false (some text)
        (some (store.kept (retryAt now (backoffMs hash entry.event.eventId attempts))))

end Service

/-- Where a relay is in `run_once`. -/
inductive Relay (P : Type) where
  | reading (now : UtcTimestamp)
  | publishing (now : UtcTimestamp) (results : List (OutboxEntry P × Except String Unit)) (rest : List (OutboxEntry P))
  | recording (now : UtcTimestamp) (rest : List (OutboxEntry P × Except String Unit))

structure Publish where
  eventId : EventId
  succeeded : Bool
  deriving DecidableEq

structure State (P : Type) where
  rows : Table P
  relays : KeyMap Nat (Relay P)
  /-- Every publish call that has returned so far. -/
  calls : List Publish

def initial : State P := ⟨∅,∅,[]⟩

inductive Action (P : Type) where
  /-- A transaction of the application commits an event. -/
  | append (event : Event P)
  | start (relay : Nat) (now : UtcTimestamp)
  | read (relay limit : Nat)
  | publish (relay : Nat) (result : Except String Unit)
  | record (relay : Nat)
  | crash (relay : Nat)

section Step

variable {P : Type} (store : SqlStore) (hash : EventId → Nat)

variable (s : State P) (relay : Nat)

def enter (phase : Relay P) : State P := { s with relays := s.relays.insert relay phase }

def leave : State P := { s with relays := s.relays.erase relay }

def published (now : UtcTimestamp) (results : List (OutboxEntry P × Except String Unit)) (result : Except String Unit) :
    List (OutboxEntry P) → State P
  | [] => enter s relay (.recording now results)
  | entry :: rest =>
    enter { s with calls := s.calls ++ [⟨entry.event.eventId,result.isOk⟩] } relay
      (.publishing now (results ++ [(entry,result)]) rest)

def recorded (now : UtcTimestamp) : List (OutboxEntry P × Except String Unit) → State P
  | [] => leave s relay
  | (entry,result) :: rest => enter { s with rows := record store hash now s.rows entry result } relay (.recording now rest)

def step : Action P → State P
  | .append event => { s with rows := append s.rows event }
  | .start relay now =>
    match s.relays.lookup relay with
    | none => enter s relay (.reading now)
    | some _ => s
  | .read relay limit =>
    match s.relays.lookup relay with
    | some (.reading now) => enter s relay (.publishing now [] (pending s.rows store now limit))
    | _ => s
  | .publish relay result =>
    match s.relays.lookup relay with
    | some (.publishing now results rest) => published s relay now results result rest
    | _ => s
  | .record relay =>
    match s.relays.lookup relay with
    | some (.recording now rest) => recorded store hash s relay now rest
    | _ => s
  | .crash relay => leave s relay

end Step

end CheetahSignaling.OutboxRelay
