import CheetahSignaling.OwnerRepository
import CheetahSignaling.DomainTypes
import CheetahSignaling.UnitOfWork
import CheetahSignaling.GuardedRun

/-! `InboxService::handle_delivery`. A delivery comes with the answers it gets: the resolved
owner, what the handler does in the unit of work, and the calls that fail. The tables the
handler writes are of any type; the processed messages are the inbox's own. -/
namespace CheetahSignaling.Inbox

open OwnerRepository

inductive ProcessedMessageStatus where
  | pending | accepted | completed | failed | duplicate
  deriving DecidableEq

structure ProcessedMessageRecord where
  tenantId : TenantId
  messageId : MessageId
  idempotencyKey : Option String
  status : ProcessedMessageStatus
  resultPayload : Option String
  processedAt : UtcTimestamp
  expiresAt : Option UtcTimestamp

inductive InboxReceipt where
  | accepted
  | duplicate
  | rejected (reason : String)
  | deadLetter (reason : String)

inductive CommandDispatch where
  | queued | sent
  | transportFailed (reason : String)
  | timedOut

inductive OperationStepOutcome where
  | succeeded
  | failed (reason : String)
  | unknown | cancelled

structure CommandHandlerResult where
  receipt : InboxReceipt
  dispatch : Option CommandDispatch
  outcome : Option OperationStepOutcome
  resultPayload : Option String

/-- The primary key of `processed_messages`. -/
abbrev MessageKey := TenantId × MessageId

structure Store (σ : Type) where
  processed : MessageKey → Option ProcessedMessageRecord
  rest : σ

/-- What a delivery does outside its transaction. `committed` is the commit of a transaction
with writes of the handler. -/
inductive Effect where
  | handled
  | committed
  | ack
  | nak (reason : String)
  | term (reason : String)
  | forwarded (node : NodeId)
  deriving DecidableEq

structure World (σ : Type) where
  uow : UnitOfWork (Store σ)
  rolledBack : Bool
  log : List Effect

def World.opened (store : Store σ) : World σ := ⟨.opened store,false,[]⟩

def World.putRecord (w : World σ) (key : MessageKey) (record : Option ProcessedMessageRecord) : World σ :=
  { w with uow.working.processed := Function.update w.uow.working.processed key record }

def World.commit (w : World σ) : World σ where
  uow := ⟨w.uow.working,w.uow.working⟩
  rolledBack := w.rolledBack
  log := if .handled ∈ w.log then w.log ++ [.committed] else w.log

def World.rollback (w : World σ) : World σ := ⟨⟨w.uow.committed,w.uow.committed⟩,true,w.log⟩

/-- A call fails before or after it had its effect, or the process stops there. -/
inductive Fault where
  | crash
  | error (text : String)
  | late (text : String)

inductive InboxCall where
  | resolve | send | begin | getOrInsert | rollback | commit | complete | settle

/-- What a handler does with the unit of work. -/
inductive HandlerAction (σ : Type) where
  | write (change : σ → σ)
  | commit
  | rollback

inductive HandlerEnd where
  | returned (result : CommandHandlerResult)
  | failed (text : String) (retryable : Bool)
  | crashed

structure Delivery (σ : Type) where
  /-- `decode_command(&delivery.envelope)` -/
  decoded : Except String Command
  thisNode : NodeId
  owner : Option OwnerInfo
  actions : List (HandlerAction σ)
  ended : HandlerEnd
  now : UtcTimestamp
  /-- `now + record_ttl`, if that is in range. -/
  expiresAt : Option UtcTimestamp
  completedAt : UtcTimestamp
  faults : InboxCall → Option Fault

structure Encoding where
  result : CommandHandlerResult → Option String
  rejected : String → String

/-- The error of a program is the end of the process. -/
abbrev Program (σ : Type) := EStateM Unit (World σ)

section

def attempt (fault : Option Fault) (x : Program σ (Except String α)) : Program σ (Except String α) :=
  match fault with
  | none => x
  | some .crash => throw ()
  | some (.error text) => pure (.error text)
  | some (.late text) => do
    let _ ← x
    return .error text

def emit (effect : Effect) : Program σ (Except String Unit) := do
  modify fun w => { w with log := w.log ++ [effect] }
  return .ok ()

def getOrInsert (record : ProcessedMessageRecord) : Program σ (Except String (Option ProcessedMessageRecord)) := do
  let key := (record.tenantId,record.messageId)
  match (← get).uow.working.processed key with
  | some existing => return .ok (some existing)
  | none =>
    modify (·.putRecord key (some record))
    return .ok none

def complete (key : MessageKey) (status : ProcessedMessageStatus) (resultPayload : Option String)
    (processedAt : UtcTimestamp) : Program σ (Except String Unit) := do
  let record := (← get).uow.working.processed key
  modify (·.putRecord key (record.map fun record => { record with status, resultPayload, processedAt }))
  return .ok ()

def commit : Program σ (Except String Unit) := do
  if (← get).rolledBack then return .error "cannot commit a unit of work that was rolled back"
  else
    modify World.commit
    return .ok ()

def rollback : Program σ (Except String Unit) := do
  if (← get).rolledBack then return .error "unit of work already rolled back"
  else
    modify World.rollback
    return .ok ()

theorem run_commit (w : World σ) :
    commit.run w = if w.rolledBack then .ok (.error "cannot commit a unit of work that was rolled back") w
      else .ok (.ok ()) w.commit := by
  obtain ⟨uow,rolledBack,log⟩ := w
  cases rolledBack <;> rfl

theorem run_rollback (w : World σ) :
    rollback.run w = if w.rolledBack then .ok (.error "unit of work already rolled back") w
      else .ok (.ok ()) w.rollback := by
  obtain ⟨uow,rolledBack,log⟩ := w
  cases rolledBack <;> rfl

def act : HandlerAction σ → Program σ (Except String Unit)
  | .write change => do
    modify fun w => { w with uow.working.rest := change w.uow.working.rest }
    return .ok ()
  | .commit => commit
  | .rollback => rollback

def actAll : List (HandlerAction σ) → Program σ Unit
  | [] => pure ()
  | action :: rest => do
    let _ ← act action
    actAll rest

def processedStatusFromReceipt : InboxReceipt → ProcessedMessageStatus
  | .accepted => .accepted
  | .duplicate => .duplicate
  | .rejected _ | .deadLetter _ => .failed

end

section

variable (encoding : Encoding) (d : Delivery σ)

/-- `let _ = delivery.ack...await` -/
def settle (effect : Effect) : Program σ Unit := do
  let _ ← attempt (d.faults .settle) (emit effect)

/-- `let _ = uow.rollback().await` and a negative acknowledgement. -/
def giveBack (reason : String) : Program σ Unit := do
  let _ ← attempt (d.faults .rollback) rollback
  settle d (.nak reason)

def finish (key : MessageKey) (status : ProcessedMessageStatus) (payload : Option String)
    (reason : String → String) (final : Effect) : Program σ Unit := do
  match ← attempt (d.faults .complete) (complete key status payload d.completedAt) with
  | .error text => giveBack d (reason text)
  | .ok () =>
    match ← attempt (d.faults .commit) commit with
    | .error text => settle d (.nak (reason text))
    | .ok () => settle d final

def handle (key : MessageKey) : Program σ Unit := do
  let _ ← emit .handled
  actAll d.actions
  match d.ended with
  | .crashed => throw ()
  | .returned result =>
    finish d key (processedStatusFromReceipt result.receipt) (result.resultPayload.or (encoding.result result)) id .ack
  | .failed text retryable =>
    if retryable then giveBack d text
    else finish d key .failed (some (encoding.rejected text)) (fun _ => text) (.term text)

def processExisting (existing : ProcessedMessageRecord) : Program σ Unit :=
  if existing.status ≠ .pending then do
    let _ ← attempt (d.faults .commit) commit
    settle d .ack
  else giveBack d "command already pending"

def process (command : Command) : Program σ Unit := do
  let key := (command.tenantId,command.messageId)
  match ← attempt (d.faults .begin) (pure (.ok ())) with
  | .error text => settle d (.nak text)
  | .ok () =>
    match ← attempt (d.faults .getOrInsert) (getOrInsert
      ⟨command.tenantId,command.messageId,some command.idempotencyKey,.pending,none,d.now,d.expiresAt⟩) with
    | .error text => giveBack d text
    | .ok (some existing) => processExisting d existing
    | .ok none => handle encoding d key

def forward (node : NodeId) : Program σ Unit := do
  match ← attempt (d.faults .send) (emit (.forwarded node)) with
  | .error text => settle d (.nak text)
  | .ok () => settle d .ack

def handleDelivery : Program σ Unit :=
  match d.decoded with
  | .error text => settle d (.term text)
  | .ok command => do
    match ← attempt (d.faults .resolve) (pure (.ok d.owner)) with
    | .error text => settle d (.nak text)
    | .ok none => settle d (.nak "no owner")
    | .ok (some owner) =>
      if owner.ownerNodeId = d.thisNode then
        if owner.ownerEpoch ≠ command.expectedOwnerEpoch then settle d (.term "stale owner epoch")
        else process encoding d command
      else forward d owner.ownerNodeId

end

end CheetahSignaling.Inbox
