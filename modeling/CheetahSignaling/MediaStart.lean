import CheetahSignaling.MediaCommand

/-! The start of a media session: reservation, the transaction that creates operation,
session and binding, the command, and the handling of the node's answer. `start_live`,
`start_playback`, `start_talk` and `start_broadcast` differ in the purpose, the payload and
the playback window. Reads of the device and channel tables, the owner resolver and the
parsed fields of the request are arguments. -/
namespace CheetahSignaling.MediaStart

open Service

structure MediaReservation where
  mediaNodeId : NodeId
  (mediaNodeInstanceEpoch contractVersion : Nat)

structure PlaybackWindow where
  (startTime endTime : UtcTimestamp)
  scale : Scale

inductive AnswerCall where
  | getOperation | getSession | getBinding
  | saveInviting | saveSession | saveBinding | saveOperation
  | appendInviting | appendSession | appendBinding | appendOperation
  | commit | release

section

variable (faults : AnswerCall → Option DomainError) (tenant : TenantId) (now : UtcTimestamp)
variable (session : MediaSession) (binding : MediaBinding) (operation : Operation)

/-- `Completed`: a synchronous start still goes through `Inviting`. -/
def completeStart : Service MediaSession := do
  let (inviting,invitingEvent) ← ofResult (session.inviting now)
  call (faults .saveInviting) (saveSession inviting)
  let (session,activeEvent) ← ofResult (inviting.active now)
  let (binding,bindingChanged) ← ofResult (binding.activate now)
  let (operation,completed) ← ofResult (operation.complete .success now)
  call (faults .saveSession) (saveSession session)
  call (faults .saveBinding) (saveBinding binding)
  call (faults .saveOperation) (saveOperation operation)
  call (faults .appendInviting) (append (sessionEvent tenant inviting invitingEvent))
  call (faults .appendSession) (append (sessionEvent tenant session activeEvent))
  call (faults .appendBinding) (append (bindingEvent tenant binding bindingChanged))
  call (faults .appendOperation) (append (operationEvent tenant operation completed))
  commitCall (faults .commit)
  return session

/-- `Accepted` and `UnknownOutcome`: the operation stays running. -/
def acceptStart : Service MediaSession := do
  let (session,invitingEvent) ← ofResult (session.inviting now)
  let (binding,bindingChanged) ← ofResult (binding.activate now)
  call (faults .saveSession) (saveSession session)
  call (faults .saveBinding) (saveBinding binding)
  call (faults .appendSession) (append (sessionEvent tenant session invitingEvent))
  call (faults .appendBinding) (append (bindingEvent tenant binding bindingChanged))
  commitCall (faults .commit)
  return session

def failStart (error : ErrorText) : Service Unit := do
  let (session,sessionFailed) ← ofResult (session.failed error now)
  let (binding,bindingFailed) ← ofResult (binding.failed error now)
  let (operation,completed) ← ofResult (operation.complete (.failure error) now)
  call (faults .saveSession) (saveSession session)
  call (faults .saveBinding) (saveBinding binding)
  call (faults .saveOperation) (saveOperation operation)
  call (faults .appendSession) (append (sessionEvent tenant session sessionFailed))
  call (faults .appendBinding) (append (bindingEvent tenant binding bindingFailed))
  call (faults .appendOperation) (append (operationEvent tenant operation completed))
  commitCall (faults .commit)

def applyStartResult : MediaNodeCommandResult → Service MediaSession
  | .completed => completeStart faults tenant now session binding operation
  | .accepted | .unknownOutcome _ => acceptStart faults tenant now session binding
  | .failed error => do
    failStart faults tenant now session binding operation error
    releaseReservation (faults .release) binding.mediaBindingId
    throw (.unavailable (clampMsg ("media node command failed: " ++ error.code ++ ": " ++ error.message)))

def handleStartResult (command : MediaNodeCommand) (result : MediaNodeCommandResult) : Service MediaSession := do
  let operation ← call (faults .getOperation) (getOperation command.tenantId command.operationId)
  let session ← call (faults .getSession) (getSession command.tenantId command.mediaSessionId)
  let binding ← call (faults .getBinding) (getBinding command.tenantId command.mediaBindingId)
  applyStartResult faults command.tenantId now session binding operation result

end

def dispatchMediaCommand (sendFaults : ExecuteCall → Option DomainError)
    (faults : AnswerCall → Option DomainError) (node : MediaNodeCommand → CommandReply)
    (now : UtcTimestamp) (command : MediaNodeCommand) : Service MediaSession := do
  let result ← executeMediaCommand sendFaults node now command
  handleStartResult faults now command result

inductive PersistCall where
  | saveOperation | saveSession | saveBinding
  | appendOperation | appendSession | appendBinding
  | saveAllocating | appendAllocating
  | commit

structure StartIds where
  mediaSessionId : MediaSessionId
  mediaBindingId : MediaBindingId
  operation : Operation.NewIds

structure StartRequest where
  deviceId : DeviceId
  channelId : ChannelId
  idempotencyKey : String

def withPlaybackWindow (session : MediaSession) : Option PlaybackWindow → Except DomainError MediaSession
  | some window => session.setPlaybackWindow window.startTime window.endTime window.scale
  | none => .ok session

def persistStartResources (faults : PersistCall → Option DomainError) (context : RequestContext)
    (now : UtcTimestamp) (ids : StartIds) (scope : IdempotencyScope) (request : StartRequest)
    (reservation : MediaReservation) (ownerEpoch : OwnerEpoch) (deadline : Option UtcTimestamp)
    (payload : CommandPayload) (purpose : MediaPurpose) (playback : Option PlaybackWindow) :
    Service Operation := do
  let tenant := context.tenantId
  let (operation,submitted) ← ofResult (Operation.new ids.operation now tenant context.principalId
    scope.idempotencyKey request.deviceId scope.target payload deadline ownerEpoch)
  let (session,sessionCreated) ← ofResult (MediaSession.new now ids.mediaSessionId tenant request.deviceId
    request.channelId purpose .active ownerEpoch operation.operationId operation.idempotencyScope deadline)
  let session ← ofResult (withPlaybackWindow session playback)
  let (binding,bindingCreated) ← ofResult (MediaBinding.new now ids.mediaBindingId ids.mediaSessionId tenant
    request.channelId reservation.mediaNodeId ownerEpoch reservation.mediaNodeInstanceEpoch)
  call (faults .saveOperation) (saveOperation operation)
  call (faults .saveSession) (saveSession session)
  call (faults .saveBinding) (saveBinding binding)
  call (faults .appendOperation) (append (operationEvent tenant operation submitted))
  call (faults .appendSession) (append (sessionEvent tenant session sessionCreated))
  call (faults .appendBinding) (append (bindingEvent tenant binding bindingCreated))
  let (session,allocatingEvent) ← ofResult (session.allocating now)
  call (faults .saveAllocating) (saveSession session)
  call (faults .appendAllocating) (append (sessionEvent tenant session allocatingEvent))
  commitCall (faults .commit)
  return operation

/-- What the transaction of a start has committed. -/
structure Persisted (ids : StartIds) (tenant : TenantId) (operation : Operation) (w : World)
    (session : MediaSession) (binding : MediaBinding) : Prop where
  operationRow : w.working.operations.find operation.operationId = some operation
  operationTenant : operation.tenantId = tenant
  pending : operation.status = .pending
  sessionRow : w.working.sessions.find ids.mediaSessionId = some session
  sessionTenant : session.tenantId = tenant
  allocating : session.state = .allocating
  bindingRow : w.working.bindings.find ids.mediaBindingId = some binding
  bindingTenant : binding.tenantId = tenant
  reserved : binding.state = .reserved
  committed : w.committed = w.working

theorem withPlaybackWindow_inv (h : withPlaybackWindow session playback = .ok session') :
    session'.mediaSessionId = session.mediaSessionId ∧ session'.tenantId = session.tenantId := by
  cases playback with
  | none =>
    cases h
    exact ⟨rfl,rfl⟩
  | some window =>
    simp only [withPlaybackWindow,MediaSession.setPlaybackWindow] at h
    split_ifs at h
    cases h
    exact ⟨rfl,rfl⟩

theorem persistStartResources_ok
    (ran : (persistStartResources faults context now ids scope request reservation ownerEpoch deadline
      payload purpose playback).run w = .ok operation w') :
    ∃ session binding, Persisted ids context.tenantId operation w' session binding := by
  obtain ⟨⟨op,submitted⟩,newOperation,rest⟩ := bind_ofResult_ok ran
  obtain ⟨⟨session,sessionCreated⟩,newSession,rest⟩ := bind_ofResult_ok rest
  obtain ⟨windowed,setWindow,rest⟩ := bind_ofResult_ok rest
  obtain ⟨⟨binding,bindingCreated⟩,newBinding,rest⟩ := bind_ofResult_ok rest
  have rest := bind_saveIn_ok (bind_saveIn_ok (bind_saveIn_ok rest))
  have rest := bind_append_ok (bind_append_ok (bind_append_ok rest))
  obtain ⟨⟨allocated,allocatingEvent⟩,allocate,rest⟩ := bind_ofResult_ok rest
  obtain ⟨-,-,-,rfl⟩ := MediaSession.transitionTo_inv allocate
  cases bind_commit_ok (bind_append_ok (bind_saveIn_ok rest))
  have created := Operation.new_inv newOperation
  obtain ⟨sessionId,sessionTenant,-⟩ := MediaSession.new_inv newSession
  obtain ⟨windowedId,windowedTenant⟩ := withPlaybackWindow_inv setWindow
  obtain ⟨bindingId,-,bindingTenant,reserved,-⟩ := MediaBinding.new_inv newBinding
  refine ⟨windowed.moved now .allocating none,binding,?_,created.tenant,created.pending,?_,
    windowedTenant.trans sessionTenant,rfl,?_,bindingTenant,reserved,rfl⟩
  · exact Table.find_put_same ..
  · rw [← sessionId,← windowedId]
    exact Table.find_put_same ..
  · rw [← bindingId]
    exact Table.find_put_same ..

structure StartEnvironment where
  /-- `ensure_device_and_channel_ready` -/
  ready : Except DomainError Unit
  /-- The owner epoch `owner_resolver.resolve` returns. -/
  owner : Except DomainError (Option OwnerEpoch)
  /-- `parse_deadline` -/
  deadline : Except DomainError (Option UtcTimestamp)
  reserve : Except DomainError MediaReservation
  node : MediaNodeCommand → CommandReply

inductive StartCall where
  | getByIdempotency | commitRead | release
  deriving DecidableEq

structure StartFaults where
  start : StartCall → Option DomainError
  persist : PersistCall → Option DomainError
  send : ExecuteCall → Option DomainError
  answer : AnswerCall → Option DomainError

def reserveBinding (reply : Except DomainError MediaReservation) (id : MediaBindingId) : Service MediaReservation := do
  let reservation ← ofResult reply
  modify fun w => { w with reserved := Function.update w.reserved id true }
  return reservation

def resolvedOwner (deviceId : DeviceId) : Option OwnerEpoch → Except DomainError OwnerEpoch
  | some epoch => .ok epoch
  | none => .error (.noOwner deviceId)

def startCommand (sourceNodeId : NodeId) (context : RequestContext) (ids : StartIds)
    (operation : Operation) (reservation : MediaReservation) (ownerEpoch : OwnerEpoch)
    (deadline : Option UtcTimestamp) (payload : CommandPayload) : MediaNodeCommand where
  requestId := context.messageId
  tenantId := context.tenantId
  mediaSessionId := ids.mediaSessionId
  mediaBindingId := ids.mediaBindingId
  mediaNodeId := reservation.mediaNodeId
  mediaNodeInstanceEpoch := reservation.mediaNodeInstanceEpoch
  operationId := operation.operationId
  ownerEpoch := ownerEpoch
  sourceNodeId := sourceNodeId
  deadline := deadline
  idempotencyKey := operation.idempotencyScope.idempotencyKey
  contractVersion := reservation.contractVersion
  payload := payload

def startReserved (faults : StartFaults) (node : MediaNodeCommand → CommandReply) (sourceNodeId : NodeId)
    (context : RequestContext) (now : UtcTimestamp) (ids : StartIds) (scope : IdempotencyScope)
    (request : StartRequest) (reservation : MediaReservation) (ownerEpoch : OwnerEpoch)
    (deadline : Option UtcTimestamp) (payload : CommandPayload) (purpose : MediaPurpose)
    (playback : Option PlaybackWindow) : Service MediaSession := do
  match ← attempt (persistStartResources faults.persist context now ids scope request reservation
      ownerEpoch deadline payload purpose playback) with
  | .error e => do
    releaseReservation (faults.start .release) ids.mediaBindingId
    throw e
  | .ok operation =>
    dispatchMediaCommand faults.send faults.answer node now
      (startCommand sourceNodeId context ids operation reservation ownerEpoch deadline payload)

section

variable (purpose : MediaPurpose) (payload : MediaReservation → CommandPayload) (playback : Option PlaybackWindow)
  (window : PlaybackWindow) (faults : StartFaults) (env : StartEnvironment) (sourceNodeId : NodeId)
  (context : RequestContext) (now : UtcTimestamp) (ids : StartIds) (request : StartRequest)

def startMedia : Service MediaSession := do
  ofResult env.ready
  let scope ← ofResult (IdempotencyScope.new context.tenantId context.principalId
    ⟨context.tenantId,.channel,request.channelId⟩ request.idempotencyKey)
  match ← call (faults.start .getByIdempotency) (findSessionByIdempotency scope) with
  | some existing => return existing
  | none => do
    -- the read transaction is closed before external calls
    commitCall (faults.start .commitRead)
    let ownerEpoch ← ofResult (resolvedOwner request.deviceId (← ofResult env.owner))
    let deadline ← ofResult env.deadline
    let reservation ← reserveBinding env.reserve ids.mediaBindingId
    startReserved faults env.node sourceNodeId context now ids scope request reservation ownerEpoch deadline
      (payload reservation) purpose playback

def startLive : Service MediaSession :=
  startMedia .live (fun r => .startLive ids.mediaSessionId request.channelId r.mediaNodeId .live) none
    faults env sourceNodeId context now ids request

def startPlayback : Service MediaSession :=
  startMedia .playback
    (fun r => .startPlayback ids.mediaSessionId request.channelId r.mediaNodeId window.startTime window.endTime
      window.scale) (some window) faults env sourceNodeId context now ids request

def startTalk : Service MediaSession :=
  startMedia .talk (fun r => .startTalk ids.mediaSessionId request.channelId r.mediaNodeId) none
    faults env sourceNodeId context now ids request

def startBroadcast : Service MediaSession :=
  startMedia .broadcast (fun r => .startBroadcast ids.mediaSessionId request.channelId r.mediaNodeId) none
    faults env sourceNodeId context now ids request

end

end CheetahSignaling.MediaStart
