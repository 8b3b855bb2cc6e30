import CheetahSignaling.Inbox
import CheetahSignaling.KeyMap
import CheetahSignaling.MediaCallbackConfinement

/-! The media event consumer. It applies the events of a media node in one unit of work each, together
with the record of the event and the cursor of the node, both of them processed messages. The tables
that the event handler writes are of any type; a delivery comes with the calls that fail in it. -/
namespace CheetahSignaling.MediaEvents

open MediaCallback Inbox

structure MediaNodeEvent where
  eventId : String
  sequence : Nat
  tenantId : TenantId
  /-- `none` if the callback could not be parsed. -/
  callback : Option MediaNodeCallback

/-- Identifiers and payloads; the sequence can be read back from the cursor's payload. -/
structure Codec where
  messageIdForEvent : TenantId → String → MessageId
  messageIdForNode : NodeId → MessageId
  cursorKey : NodeId → String
  completed : Nat → String
  failed : Nat → DomainError → String
  cursor : Nat → String
  parseCursorPayload : String → Option Nat
  parse_cursor : ∀ sequence, parseCursorPayload (cursor sequence) = some sequence

/-- The check of a callback and the event handler, which returns with what it wrote. -/
structure Ports (σ : Type) where
  validateCallback : TenantId → MediaNodeCallback → MediaNode → σ → Except DomainError Unit
  handleMediaEvent : TenantId → UtcTimestamp → MediaNodeCallback → σ → σ × Except DomainError Unit

structure Gap where
  nodeId : NodeId
  tenantId : TenantId
  (expected actual : Nat)

structure World (σ : Type) where
  uow : UnitOfWork (Inbox.Store σ)
  /-- The last sequences in memory. -/
  cursors : KeyMap NodeId Nat
  gaps : List Gap
  /-- The event whose handler has run in the open unit of work. -/
  staged : Option MessageKey
  /-- The events whose handlers ran in units of work that were committed. -/
  applied : List MessageKey

/-- Why an event is not processed to its end. -/
inductive Stop where
  | crash
  | backend (text : String)
  | domain (error : DomainError)

inductive Call where
  | begin | getOrInsert | validate | handle | complete | findCursor | insertCursor | completeCursor | commit | rollback
deriving DecidableEq

/-- An event with what happens while it is processed. The calls of the unit of work that records a
failure of the handler have faults of their own. -/
structure Delivery where
  node : MediaNode
  event : MediaNodeEvent
  now : UtcTimestamp
  faults : Call → Option Fault
  failureFaults : Call → Option Fault

abbrev Program (σ : Type) := EStateM Stop (World σ)

def lastSecond : UtcTimestamp := 253402300799000000000

/-- The expiry of a record, clamped to what can be represented. -/
def ttlExpiresAt (now : UtcTimestamp) (ttlMs : Nat) : UtcTimestamp :=
  let expiry := now + min (ttlMs : Int) i64Max * 1000000
  if expiry < lastSecond + 1000000000 then expiry else lastSecond

section Storage

variable {σ α : Type}

variable (key : MessageKey) (status : ProcessedMessageStatus) (fault : Option Fault) (payload : String)
  (now : UtcTimestamp) (record : ProcessedMessageRecord)

def call (x : Program σ α) : Program σ α :=
  match fault with
  | none => x
  | some .crash => throw .crash
  | some (.error text) => throw (.backend text)
  | some (.late text) => do
    let _ ← x
    throw (.backend text)

def answered (x : Program σ (Except DomainError Unit)) : Program σ (Except DomainError Unit) :=
  match fault with
  | none => x
  | some .crash => throw .crash
  | some (.error text) => pure (.error (.internal text))
  | some (.late text) => do
    let _ ← x
    return .error (.internal text)

def putRecord (record : Option ProcessedMessageRecord) (store : Inbox.Store σ) : Inbox.Store σ :=
  { store with processed := Function.update store.processed key record }

def begin : Program σ Unit := modify fun w => { w with uow := .opened w.uow.committed, staged := none }

def find : Program σ (Option ProcessedMessageRecord) := do return (← get).uow.working.processed key

def getOrInsert : Program σ (Option ProcessedMessageRecord) := do
  match (← get).uow.working.processed (record.tenantId,record.messageId) with
  | some existing => return some existing
  | none =>
    modify fun w => { w with uow.working := putRecord (record.tenantId,record.messageId) (some record) w.uow.working }
    return none

def finished : ProcessedMessageRecord :=
  { record with status := status, resultPayload := some payload, processedAt := now }

def complete : Program σ Unit := modify fun w =>
    { w with uow.working := putRecord key ((w.uow.working.processed key).map (finished status payload now)) w.uow.working }

def commit : Program σ Unit := modify fun w =>
  { w with uow := ⟨w.uow.working,w.uow.working⟩, staged := none, applied := w.applied ++ w.staged.toList }

def rollback : Program σ Unit := modify fun w => { w with uow := ⟨w.uow.committed,w.uow.committed⟩, staged := none }

end Storage

section Consumer

variable {σ : Type} (codec : Codec) (ports : Ports σ) (recordTtlMs : Nat) (d : Delivery)

def lastSequence (cursors : KeyMap NodeId Nat) (node : NodeId) : Nat := (cursors.lookup node).getD 0

variable (faults : Call → Option Fault) (key : MessageKey) (callback : MediaNodeCallback) (node : NodeId)

def updateSequence (sequence : Nat) (cursors : KeyMap NodeId Nat) : KeyMap NodeId Nat :=
  if (cursors.lookup node).all (· < sequence) then cursors.insert node sequence else cursors

/-- `detect_sequence_gap`, then the cursor in memory. -/
def advance : Program σ Unit := modify fun w =>
  let last := lastSequence w.cursors d.node.nodeId
  { w with
    gaps := if last ≠ 0 ∧ saturatingAdd last 1 < d.event.sequence then
        w.gaps ++ [⟨d.node.nodeId,d.event.tenantId,saturatingAdd last 1,d.event.sequence⟩]
      else w.gaps
    cursors := updateSequence d.node.nodeId d.event.sequence w.cursors }

def cursorId : MessageKey := (0,codec.messageIdForNode node)

def cursorIn (record : Option ProcessedMessageRecord) : Option Nat :=
  (record.bind (·.resultPayload)).bind codec.parseCursorPayload

def pendingRecord (idempotencyKey : String) : ProcessedMessageRecord :=
  ⟨key.1,key.2,some idempotencyKey,.pending,none,d.now,some (ttlExpiresAt d.now recordTtlMs)⟩

/-- Never moves the persisted cursor back. -/
def updateCursor : Program σ Unit := do
  let key := cursorId codec d.node.nodeId
  let record ← call (faults .findCursor) (find key)
  if (cursorIn codec record).any (d.event.sequence ≤ ·) then return ()
  let _ ← call (faults .insertCursor) (getOrInsert (pendingRecord recordTtlMs d key (codec.cursorKey d.node.nodeId)))
  call (faults .completeCursor) (complete key .completed (codec.cursor d.event.sequence) d.now)

def settle : Program σ Unit := do
  updateCursor codec recordTtlMs d faults
  call (faults .commit) commit
  advance d

def runHandler : Program σ (Except DomainError Unit) := do
  let w ← get
  let (rest,result) := ports.handleMediaEvent d.event.tenantId d.now callback w.uow.working.rest
  set { w with uow.working.rest := rest, staged := some key }
  return result

def eventKey : MessageKey := (d.event.tenantId,codec.messageIdForEvent d.event.tenantId d.event.eventId)

/-- The failure of a handler, in a unit of work of its own. -/
def recordFailure (error : DomainError) : Program σ Unit := do
  call (d.faults .rollback) rollback
  call (d.failureFaults .begin) begin
  let _ ← call (d.failureFaults .getOrInsert) (getOrInsert (pendingRecord recordTtlMs d (eventKey codec d) d.event.eventId))
  call (d.failureFaults .complete) (complete (eventKey codec d) .failed (codec.failed d.event.sequence error) d.now)
  settle codec recordTtlMs d d.failureFaults
  throw (.domain error)

def applyEvent : Program σ Unit := do
  let valid ← answered (d.faults .validate) do
    return ports.validateCallback d.event.tenantId callback d.node (← get).uow.working.rest
  match valid with
  | .error error =>
    call (d.faults .complete) (complete (eventKey codec d) .failed (codec.failed d.event.sequence error) d.now)
    settle codec recordTtlMs d d.faults
  | .ok () =>
    match ← answered (d.faults .handle) (runHandler ports d (eventKey codec d) callback) with
    | .ok () =>
      call (d.faults .complete) (complete (eventKey codec d) .completed (codec.completed d.event.sequence) d.now)
      settle codec recordTtlMs d d.faults
    | .error error => recordFailure codec recordTtlMs d error

def wellFormed : Option MediaNodeCallback :=
  if d.event.eventId = "" ∨ d.event.tenantId = 0 then none
  else
    d.event.callback.filter fun callback =>
      callback.mediaNodeId = d.node.nodeId ∧ callback.mediaNodeInstanceEpoch = d.node.instanceEpoch

def processEvent : Program σ Unit :=
  match wellFormed d with
  | none => advance d
  | some callback => do
    call (d.faults .begin) begin
    let existing ← call (d.faults .getOrInsert) (getOrInsert (pendingRecord recordTtlMs d (eventKey codec d) d.event.eventId))
    if existing.isSome then settle codec recordTtlMs d d.faults
    else applyEvent codec ports recordTtlMs d callback

end Consumer

structure Consumer (σ : Type) where
  store : Inbox.Store σ
  cursors : KeyMap NodeId Nat
  gaps : List Gap
  applied : List MessageKey

def Consumer.opened (s : Consumer σ) : World σ := ⟨.opened s.store,s.cursors,s.gaps,none,s.applied⟩

def World.closed (w : World σ) : Consumer σ := ⟨w.uow.committed,w.cursors,w.gaps,w.applied⟩

inductive Action where
  | deliver (delivery : Delivery)
  /-- The stream is opened again, from the persisted cursor. -/
  | resume (node : NodeId) (fails : Bool)
  | restart
  /-- The record of an event goes when it has expired. -/
  | purge (key : MessageKey)

section Run

variable {σ : Type} (codec : Codec) (ports : Ports σ) (recordTtlMs : Nat)

/-- A failure of an event is only logged; a crash loses what is in memory. -/
def deliver (s : Consumer σ) (d : Delivery) : Consumer σ :=
  match (processEvent codec ports recordTtlMs d).run s.opened with
  | .ok _ w => w.closed
  | .error .crash w => { w.closed with cursors := ∅ }
  | .error _ w => w.closed

def loadCursor (node : NodeId) (s : Consumer σ) : Consumer σ :=
  match cursorIn codec (s.store.processed (cursorId codec node)) with
  | none => s
  | some sequence => { s with cursors := updateSequence node sequence s.cursors }

/-- The loop over a stream, from the persisted cursor on. -/
def consumeNode (node : NodeId) (s : Consumer σ) (stream : List Delivery) : Consumer σ :=
  stream.foldl (deliver codec ports recordTtlMs) (loadCursor codec node s)

def step (s : Consumer σ) : Action → Consumer σ
  | .deliver d => deliver codec ports recordTtlMs s d
  | .resume node fails => if fails then s else loadCursor codec node s
  | .restart => { s with cursors := ∅ }
  | .purge key => { s with store := putRecord key none s.store }

end Run

section MediaService

def mediaService : Ports Store where
  validateCallback tenant callback node store :=
    match (MediaCallback.validateCallback tenant callback node).run (CheetahSignaling.World.opened store fun _ => false) with
    | .ok _ _ => .ok ()
    | .error error _ => .error error
  handleMediaEvent tenant now callback store :=
    match (MediaCallback.applyMediaEvent tenant now callback).run (CheetahSignaling.World.opened store fun _ => false) with
    | .ok _ w => (w.working,.ok ())
    | .error error w => (w.working,.error error)

end MediaService

namespace Sample

def strokes : Codec where
  messageIdForEvent _ eventId := eventId.length
  messageIdForNode node := node
  cursorKey _ := "cursor"
  completed _ := "completed"
  failed _ _ := "failed"
  cursor sequence := String.ofList (List.replicate sequence 'i')
  parseCursorPayload payload := some payload.toList.length
  parse_cursor sequence := by simp

def counting : Ports Nat where
  validateCallback _ _ _ _ := .ok ()
  handleMediaEvent _ _ callback count :=
    (count + 1,if callback.kind = .started then .ok () else .error (.internal "no session"))

def callback (kind : MediaCallback.Kind) : MediaNodeCallback := ⟨8,3,11,12,none,1,1,1,kind⟩

def delivery (eventId : String) (sequence : Nat) (kind : MediaCallback.Kind) (faults : Call → Option Fault) : Delivery :=
  ⟨⟨8,3⟩,⟨eventId,sequence,1,some (callback kind)⟩,5,faults,fun _ => none⟩

def fresh : Consumer Nat := ⟨⟨fun _ => none,0⟩,∅,[],[]⟩

end Sample

end CheetahSignaling.MediaEvents
