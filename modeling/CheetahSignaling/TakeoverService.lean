import CheetahSignaling.OwnerRepository
import CheetahSignaling.MediaStore
import CheetahSignaling.KeysetPaging
import CheetahSignaling.UnitOfWork

/-! `TakeoverService::takeover`. Ownership, the operations of the device and the outbox are
written in one transaction; the checks before it and the read after a lost race use other
connections, so what they find is an argument. The loop over the pages is given a bound on
their number and returns `none` when it would go on. -/
namespace CheetahSignaling.TakeoverService

open OwnerRepository UnitOfWork

structure Store where
  registry : Database
  operations : Table Operation.operationId
  outbox : List Event

abbrev Program := EStateM DomainError (UnitOfWork Store)

def ownerLost : ErrorText := ⟨"owner_lost","device owner epoch advanced due to takeover"⟩

def maxPageSize : Nat := 1000

inductive TakeoverResult where
  | current
  | acquired (owner : OwnerInfo) (recovered : Nat)
  | remoteOwner (owner : OwnerInfo)
  | notEligible

inductive TakeoverCall where
  | getOwner | getOwnerNode | getThisNode
  | begin | acquire | rollback | getWinner
  | list (status : OperationStatus) (cursor : Option OperationId)
  | save (operationId : OperationId)
  | append (operationId : OperationId)
  | appendOwnerChanged | commit

structure Takeover where
  tenantId : TenantId
  deviceId : DeviceId
  thisNode : NodeId
  now : UtcTimestamp
  /-- `now + lease_duration`; `none` when that is out of range. -/
  leaseUntil : Option UtcTimestamp
  /-- The clock when the operation is failed. -/
  clock : OperationId → UtcTimestamp
  /-- What the checks before the transaction find. -/
  seen : Database
  /-- What is found after a lost race. -/
  later : Database
  faults : TakeoverCall → Option DomainError

def isNodeAlive (node : ClusterNode) (now : UtcTimestamp) : Bool := now < node.leaseUntil

def isOwnerValid (owner : OwnerInfo) (node : ClusterNode) (now : UtcTimestamp) : Bool :=
  isNodeAlive node now && owner.leaseUntil.any (now < ·)

variable (db : Database) (tenant : TenantId) (device : DeviceId) (node : NodeId) (now leaseUntil : UtcTimestamp)

def candidateAlive (now : UtcTimestamp) : Bool :=
  (db.nodes node).any fun n => db.store.leased n.leaseUntil now && !n.draining

def upsertOwner : Except DomainError Database :=
  let write (epoch : Int) := db.put device (some ⟨tenant,node,epoch,some (db.store.kept leaseUntil)⟩)
  match db.owners device with
  | none => .ok (write 1)
  | some row =>
    if acquireWhere db node now row && candidateAlive db node now then
      match db.store.increment row.ownerEpoch with
      | .ok epoch => .ok (write epoch)
      | .error _ => .error (.unavailable "bigint out of range")
    else .ok db

def readOwner : Except DomainError (Option OwnerInfo) :=
  (OwnerRepository.get db tenant device).mapError fun _ => .internal "mismatched types"

def acquireOwnership : Except DomainError (Database × Option (OwnerInfo × Option OwnerInfo)) :=
  if candidateAlive db node now then do
    let previous ← readOwner db tenant device
    let db ← upsertOwner db tenant device node now leaseUntil
    let current ← readOwner db tenant device
    return (db,(current.filter fun owner => owner.ownerNodeId = node).map (·,previous))
  else .error (.unavailable "candidate node is not eligible")

section

variable (t : Takeover)

variable (fuel : Nat) (owner : OwnerInfo) (leaseUntil : UtcTimestamp) (status : OperationStatus) (op : Operation)

def listed : Bool := op.tenantId = t.tenantId && op.deviceId = t.deviceId && op.status = status

def listOperations (cursor : Option OperationId) : Program (Table.Page Operation OperationId) := do
  let store ← read
  return store.operations.page maxPageSize (listed t status) cursor

def saveOperation : Program Unit := do
  let store ← read
  match store.operations.save Operation.revision op with
  | .ok operations => write fun store => { store with operations }
  | .error found => throw (.concurrentModification (op.revision - 1) found)

def append (event : Event) : Program Unit := write fun store => { store with outbox := store.outbox ++ [event] }

def recoverOperation (recovered : Nat) : Program Nat :=
  if op.expectedOwnerEpoch < owner.ownerEpoch then
    match op.fail ownerLost (t.clock op.operationId) with
    | (_,.error e) => throw e
    | (failed,.ok event) => do
      perform (t.faults (.save op.operationId)) (saveOperation failed)
      perform (t.faults (.append op.operationId)) (append (Service.operationEvent t.tenantId failed event))
      return recovered + 1
  else pure recovered

def recoverPage (owner : OwnerInfo) : List Operation → Nat → Program Nat
  | [],recovered => pure recovered
  | op :: rest,recovered => do
    let recovered ← recoverOperation t owner op recovered
    recoverPage owner rest recovered

def recoverStatus (owner : OwnerInfo) (status : OperationStatus) :
    Nat → Option OperationId → Nat → Program (Option Nat)
  | 0,_,_ => pure none
  | fuel + 1,cursor,recovered => do
    let page ← perform (t.faults (.list status cursor)) (listOperations t status cursor)
    let recovered ← recoverPage t owner page.items recovered
    match page.nextCursor with
    | none => return some recovered
    | some next => recoverStatus owner status fuel (some next) recovered

def recoverOperations : Program (Option Nat) := do
  match ← recoverStatus t owner .pending fuel none 0 with
  | none => return none
  | some recovered => recoverStatus t owner .running fuel none recovered

def ownerChanged (owner : OwnerInfo) (previous : Option OwnerInfo) : Event :=
  ⟨t.tenantId,⟨t.tenantId,.device,t.deviceId⟩,owner.ownerEpoch,
    .ownerChanged t.tenantId t.deviceId owner.ownerNodeId owner.ownerEpoch (previous.map OwnerInfo.ownerNodeId)
      (previous.map OwnerInfo.ownerEpoch) (previous.all fun p => p.ownerNodeId != owner.ownerNodeId)⟩

/-- A read of the owner outside the transaction. -/
def getOwner (db : Database) : Program (Option OwnerInfo) :=
  match OwnerRepository.get db t.tenantId t.deviceId with
  | .ok owner => pure owner
  | .error _ => throw (.unavailable "mismatched types")

def acquire : Program (Option (OwnerInfo × Option OwnerInfo)) := do
  let store ← read
  match acquireOwnership store.registry t.tenantId t.deviceId t.thisNode t.now leaseUntil with
  | .error e => throw e
  | .ok (registry,acquired) =>
    write fun store => { store with registry }
    return acquired

def lostRace : Program (Option TakeoverResult) := do
  perform (t.faults .rollback) rollback
  match ← perform (t.faults .getWinner) (getOwner t t.later) with
  | some owner => return some (.remoteOwner owner)
  | none => throw (.internal "owner disappeared after lost takeover race")

def recoverAndCommit (previous : Option OwnerInfo) : Program (Option TakeoverResult) := do
  match ← recoverOperations t fuel owner with
  | none => return none
  | some recovered =>
    perform (t.faults .appendOwnerChanged) (append (ownerChanged t owner previous))
    perform (t.faults .commit) commit
    return some (.acquired owner recovered)

def compete : Program (Option TakeoverResult) := do
  perform (t.faults .begin) (pure ())
  match ← perform (t.faults .acquire) (acquire t leaseUntil) with
  | none => lostRace t
  | some (owner,previous) => recoverAndCommit t fuel owner previous

def validOwner : Program (Option OwnerInfo) := do
  match ← perform (t.faults .getOwner) (getOwner t t.seen) with
  | none => return none
  | some owner =>
    let node ← perform (t.faults .getOwnerNode) (pure (t.seen.nodes owner.ownerNodeId))
    return if node.any (isOwnerValid owner · t.now) then some owner else none

def isThisNodeEligible : Program Bool := do
  let node ← perform (t.faults .getThisNode) (pure (t.seen.nodes t.thisNode))
  return node.any fun node => isNodeAlive node t.now && !node.draining

def takeover : Program (Option TakeoverResult) :=
  match t.leaseUntil with
  | none => throw (.internal "owner lease overflow")
  | some leaseUntil => do
    match ← validOwner t with
    | some owner => return some (if owner.ownerNodeId = t.thisNode then .current else .remoteOwner owner)
    | none => if ← isThisNodeEligible t then compete t fuel leaseUntil else return some .notEligible

end

end CheetahSignaling.TakeoverService
