import CheetahSignaling.DomainTypes
import CheetahSignaling.KeyMap
import Mathlib.Data.List.Sort

/-! A shard worker: a mailbox that is read in batches, a queue for each device with messages, and a
loop that hands them to the actors of the devices, at most so many in a row and so many in a call.
The actors, the output channel and the clock are an environment with a state of its own. Loops that
the configuration may keep from ending have fuel. -/
namespace CheetahSignaling.Runtime

/-- Ordered by the tenant, then by the device. -/
structure DeviceKey where
  tenantId : TenantId
  deviceId : DeviceId
deriving DecidableEq

def DeviceKey.le (a b : DeviceKey) : Prop := a.tenantId < b.tenantId ∨ a.tenantId = b.tenantId ∧ a.deviceId ≤ b.deviceId

instance DeviceKey.decidableLe : DecidableRel DeviceKey.le := fun _ _ => instDecidableOr

abbrev TimerId := Nat

inductive RuntimeMessage where
  | protocolEvent (deviceKey : DeviceKey) (payload : List UInt8)
  | command (deviceKey : DeviceKey) (command : Command)
  | timer (deviceKey : DeviceKey) (timerId : TimerId) (kind : String)
  | ownershipChanged (deviceKey : DeviceKey) (ownerEpoch : OwnerEpoch)
  | shutdown

def RuntimeMessage.deviceKey : RuntimeMessage → Option DeviceKey
  | .protocolEvent key _ => some key
  | .command key _ => some key
  | .timer key _ _ => some key
  | .ownershipChanged key _ => some key
  | .shutdown => none

structure ShardConfig where
  (maxMessagesPerPoll maxConsecutivePerDevice actorIdleTimeoutMs : Nat)

/-- What the worker calls. An actor's outputs go to the output channel, which refuses them once it is closed. -/
structure Environment (W A O E : Type) where
  create : DeviceKey → W → Except E A × W
  handle : DeviceKey → A → RuntimeMessage → W → (A × Except E (List O)) × W
  shutdown : DeviceKey → A → W → Except E (List O) × W
  send : O → W → Bool × W
  now : W → Int × W

/-- The variables of a worker, with the calls to the actors in their order. -/
structure Worker (W A : Type) where
  readyQueue : KeyMap DeviceKey (List RuntimeMessage)
  actors : KeyMap DeviceKey A
  lastActive : KeyMap DeviceKey Int
  world : W
  handled : List (DeviceKey × RuntimeMessage)

def Worker.start {W A : Type} (world : W) : Worker W A := ⟨∅,∅,∅,world,[]⟩

/-- The variables of one call to the ready-queue loop; a closed output channel makes it return. -/
structure Poll (W A : Type) where
  worker : Worker W A
  processed : Nat
  returned : Bool

def keysInOrder {V : Type} (m : KeyMap DeviceKey V) : List DeviceKey := m.keys.insertionSort DeviceKey.le

variable (config : ShardConfig) (env : Environment W A O E)

def sendAll : List O → W → Bool × W
  | [], world => (true,world)
  | output :: outputs, world =>
    if (env.send output world).1 then sendAll outputs (env.send output world).2 else (false,(env.send output world).2)

/-- An error of the actor is only logged. -/
def deliver (outcome : Except E (List O)) (world : W) : Bool × W :=
  match outcome with
  | .ok outputs => sendAll env outputs world
  | .error _ => (true,world)

def handleMessage (key : DeviceKey) (actor : A) (message : RuntimeMessage) (rest : List RuntimeMessage) (poll : Poll W A) :
    Poll W A :=
  let ((actor',outcome),world) := env.handle key actor message poll.worker.world
  let (accepted,world) := deliver env outcome world
  let worker := { poll.worker with
    readyQueue := poll.worker.readyQueue.insert key rest
    actors := poll.worker.actors.insert key actor'
    world := world
    handled := poll.worker.handled ++ [(key,message)] }
  if accepted then
    let (now,world) := env.now world
    ⟨{ worker with lastActive := worker.lastActive.insert key now, world := world },poll.processed + 1,false⟩
  else ⟨worker,poll.processed,true⟩

def handleConsecutive (key : DeviceKey) : Nat → Poll W A → Poll W A
  | 0, poll => poll
  | times + 1, poll =>
    if poll.returned ∨ config.maxMessagesPerPoll ≤ poll.processed then poll
    else
      match poll.worker.actors.lookup key, poll.worker.readyQueue.lookup key with
      | some actor, some (message :: rest) => handleConsecutive key times (handleMessage env key actor message rest poll)
      | _, _ => poll

def loadActor (key : DeviceKey) (worker : Worker W A) : Worker W A :=
  match worker.actors.lookup key with
  | some _ => worker
  | none =>
    match env.create key worker.world with
    | (.ok actor,world) => { worker with actors := worker.actors.insert key actor, world := world }
    | (.error _,world) => { worker with readyQueue := worker.readyQueue.erase key, world := world }

def dropEmpty (key : DeviceKey) (worker : Worker W A) : Worker W A :=
  if (worker.readyQueue.lookup key).any List.isEmpty then { worker with readyQueue := worker.readyQueue.erase key } else worker

def leave (key : DeviceKey) (poll : Poll W A) : Poll W A :=
  if poll.returned then poll else { poll with worker := dropEmpty key poll.worker }

def visit (poll : Poll W A) (key : DeviceKey) : Poll W A :=
  if poll.returned ∨ config.maxMessagesPerPoll ≤ poll.processed then poll
  else
    leave key (handleConsecutive config env key config.maxConsecutivePerDevice
      { poll with worker := loadActor env key poll.worker })

def pass (poll : Poll W A) : Poll W A := (keysInOrder poll.worker.readyQueue).foldl (visit config env) poll

def pollLoop : Nat → Poll W A → Option (Poll W A)
  | 0, _ => none
  | fuel + 1, poll =>
    if poll.returned ∨ poll.worker.readyQueue.entries.isEmpty ∨ config.maxMessagesPerPoll ≤ poll.processed then some poll
    else pollLoop fuel (pass config env poll)

def processReadyQueue (fuel : Nat) (worker : Worker W A) : Option (Worker W A) :=
  (pollLoop config env fuel ⟨worker,0,false⟩).map Poll.worker

def drain : Nat → Worker W A → Option (Worker W A)
  | 0, _ => none
  | fuel + 1, worker =>
    if worker.readyQueue.entries.isEmpty then some worker
    else (processReadyQueue config env fuel worker).bind (drain fuel)

def saturatingSub (a b : Int) : Int := max (-2 ^ 63) (min i64Max (a - b))

def evictIdle (worker : Worker W A) : Worker W A :=
  if config.actorIdleTimeoutMs = 0 then worker
  else
    let (now,world) := env.now worker.world
    let stale := worker.lastActive.entries.filter fun seen => asI64 config.actorIdleTimeoutMs ≤ saturatingSub now seen.2
    { worker with
      lastActive := stale.foldl (fun m entry => m.erase entry.1) worker.lastActive
      actors := stale.foldl (fun m entry => m.erase entry.1) worker.actors
      world := world }

def shutdownActors : List DeviceKey → Worker W A → Worker W A
  | [], worker => worker
  | key :: keys, worker =>
    match worker.actors.lookup key with
    | none => shutdownActors keys worker
    | some actor =>
      let (outcome,world) := env.shutdown key actor worker.world
      let (accepted,world) := deliver env outcome world
      if accepted then shutdownActors keys { worker with world := world } else { worker with world := world }

def shutdownAll (worker : Worker W A) : Worker W A := shutdownActors env (keysInOrder worker.actors) worker

/-- What is in the mailbox at a time when the worker reads it: one message that it waits for and all behind it. -/
structure Batch where
  first : RuntimeMessage
  more : List RuntimeMessage

def Batch.messages (batch : Batch) : List RuntimeMessage := batch.first :: batch.more

def enqueue (worker : Worker W A) (message : RuntimeMessage) : Worker W A :=
  match message.deviceKey with
  | none => worker
  | some key =>
    { worker with readyQueue := worker.readyQueue.insert key ((worker.readyQueue.lookup key).getD [] ++ [message]) }

def RuntimeMessage.isShutdown : RuntimeMessage → Bool
  | .shutdown => true
  | _ => false

def receive (batch : Batch) (worker : Worker W A) : Worker W A := batch.messages.foldl enqueue worker

def turn (fuel : Nat) (worker : Worker W A) : Option (Worker W A) := (drain config env fuel worker).map (evictIdle config env)

def run (fuel : Nat) : List Batch → Worker W A → Option (Worker W A)
  | [], worker => do
    let worker ← turn config env fuel worker
    let worker ← turn config env fuel worker
    return shutdownAll env worker
  | batch :: batches, worker => do
    let worker ← turn config env fuel worker
    let worker := receive batch worker
    if batch.messages.any RuntimeMessage.isShutdown then
      let worker ← turn config env fuel worker
      return shutdownAll env worker
    else run fuel batches worker

end CheetahSignaling.Runtime
