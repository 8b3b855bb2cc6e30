import CheetahSignaling.GuardedRun
import CheetahSignaling.ShardRuntime
import CheetahSignaling.SortedTable

/-! The timer wheel: timers by their deadlines, the deadlines by the timers, and the fired timers whose
shard had no room. What the mailboxes of the shards answer is a parameter with a state of its own. -/
namespace CheetahSignaling.Runtime

abbrev Instant := Nat

structure TimerEntry where
  deviceKey : DeviceKey
  timerId : TimerId
  kind : String

def TimerEntry.message (entry : TimerEntry) : RuntimeMessage := .timer entry.deviceKey entry.timerId entry.kind

inductive SendOutcome where
  | accepted
  | full
  | closed
deriving DecidableEq

structure Attempt where
  now : Instant
  shard : Nat
  message : RuntimeMessage
  outcome : SendOutcome

structure Shards (W : Type) where
  shardCount : Nat
  positive : 0 < shardCount
  stableHash : DeviceKey → Nat
  trySend : Nat → RuntimeMessage → W → SendOutcome × W

def Shards.route {W : Type} (shards : Shards W) (key : DeviceKey) : Nat := shards.stableHash key % shards.shardCount

/-- The variables of the wheel, with the offers to the shards in their order. -/
structure Wheel (W : Type) where
  timersByDeadline : Table (Prod.fst : Instant × List TimerEntry → Instant)
  timerMap : KeyMap TimerId Instant
  pendingDispatch : List RuntimeMessage
  timersDropped : Nat
  world : W
  attempts : List Attempt

def Wheel.start {W : Type} (world : W) : Wheel W := ⟨Table.empty,∅,[],0,world,[]⟩

inductive TimerEvent where
  | schedule (entry : TimerEntry) (deadline : Instant)
  | cancel (deviceKey : DeviceKey) (timerId : TimerId)
  | tick (now : Instant)

def isTimer (timerId : TimerId) : RuntimeMessage → Bool
  | .timer _ id _ => id == timerId
  | _ => false

variable (shards : Shards W) (maxPendingDispatch : Nat)

section

variable (timerId : TimerId) (wheel : Wheel W)

def enforceLimit : Wheel W :=
  let overflow := wheel.pendingDispatch.length - maxPendingDispatch
  { wheel with pendingDispatch := wheel.pendingDispatch.drop overflow, timersDropped := wheel.timersDropped + overflow }

def schedule (entry : TimerEntry) (deadline : Instant) (wheel : Wheel W) : Wheel W :=
  let timers := ((wheel.timersByDeadline.find deadline).map Prod.snd).getD []
  { wheel with
    timerMap := wheel.timerMap.insert entry.timerId deadline
    timersByDeadline := wheel.timersByDeadline.put (deadline,timers ++ [entry]) }

def discard (deadline : Instant) (table : Table (Prod.fst : Instant × List TimerEntry → Instant)) :
    Table (Prod.fst : Instant × List TimerEntry → Instant) :=
  match table.find deadline with
  | none => table
  | some (_,timers) =>
    let left := timers.filter fun entry => entry.timerId ≠ timerId
    if left = [] then table.remove deadline else table.put (deadline,left)

def unschedule : Wheel W :=
  match wheel.timerMap.lookup timerId with
  | none => wheel
  | some deadline =>
    { wheel with
      timerMap := wheel.timerMap.erase timerId
      timersByDeadline := discard timerId deadline wheel.timersByDeadline }

def cancel : Wheel W :=
  let wheel := unschedule timerId wheel
  enforceLimit maxPendingDispatch
    { wheel with pendingDispatch := wheel.pendingDispatch.filter fun message => !isTimer timerId message }

end

section

variable (now : Instant) (wheel : Wheel W)

def dispatch (message : RuntimeMessage) (wheel : Wheel W) : Bool × Wheel W :=
  match message.deviceKey with
  | none => (false,wheel)
  | some key =>
    let (outcome,world) := shards.trySend (shards.route key) message wheel.world
    (outcome ≠ .full,{ wheel with
      world := world
      attempts := wheel.attempts ++ [⟨now,shards.route key,message,outcome⟩] })

/-- Offers a fired timer; it is kept if it comes back. -/
def offer (entry : TimerEntry) (wheel : Wheel W) : Wheel W :=
  let (taken,wheel) := dispatch shards now entry.message wheel
  if taken then wheel
  else enforceLimit maxPendingDispatch { wheel with pendingDispatch := wheel.pendingDispatch ++ [entry.message] }

def fire (entry : TimerEntry) : Wheel W :=
  if (wheel.timerMap.lookup entry.timerId).isSome then
    offer shards maxPendingDispatch now entry { wheel with timerMap := wheel.timerMap.erase entry.timerId }
  else wheel

/-- Fires the timers of all buckets up to the time; these are the first ones. -/
def processExpired : Wheel W :=
  let due := wheel.timersByDeadline.rows.takeWhile fun bucket => bucket.1 ≤ now
  let wheel := { wheel with timersByDeadline := wheel.timersByDeadline.dropWhile fun bucket => bucket.1 ≤ now }
  (due.flatMap Prod.snd).foldl (fire shards maxPendingDispatch now) wheel

end

def retry (now : Instant) : List RuntimeMessage → Wheel W → List RuntimeMessage × Wheel W
  | [], wheel => ([],wheel)
  | message :: messages, wheel =>
    let (taken,wheel) := dispatch shards now message wheel
    let (remaining,wheel) := retry now messages wheel
    (if taken then remaining else message :: remaining,wheel)

def processPendingDispatch (now : Instant) (wheel : Wheel W) : Wheel W :=
  let (remaining,wheel) := retry shards now wheel.pendingDispatch { wheel with pendingDispatch := [] }
  enforceLimit maxPendingDispatch { wheel with pendingDispatch := remaining }

def step (wheel : Wheel W) : TimerEvent → Wheel W
  | .schedule entry deadline => schedule entry deadline wheel
  | .cancel _ timerId => cancel maxPendingDispatch timerId wheel
  | .tick now => processPendingDispatch shards maxPendingDispatch now (processExpired shards maxPendingDispatch now wheel)

end CheetahSignaling.Runtime
