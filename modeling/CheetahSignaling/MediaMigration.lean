import CheetahSignaling.MediaStart

/-! `migrate_or_fail` and the reconnect it performs: a new binding is reserved on another
node, the session enters a new generation, the old binding fails and a start command is sent
to the new node. The device and channel check is an argument, as for a start. -/
namespace CheetahSignaling.MediaMigration

open Service MediaStart

/-- The counters `migrate_or_fail` writes. -/
structure ReconciliationReport where
  (migrationsSucceeded migrationsFailed : Nat)

def recordCalls (appendFailure saveFailure : Option DomainError) (event : α → DomainEvent → Event)
    (save : α → Service Unit) (result : Except DomainError (α × DomainEvent)) : Service α := do
  let (changed,payload) ← ofResult result
  call appendFailure (append (event changed payload))
  call saveFailure (save changed)
  return changed

/-- The same with the save first. -/
def saveCalls (saveFailure appendFailure : Option DomainError) (event : α → DomainEvent → Event)
    (save : α → Service Unit) (result : Except DomainError (α × DomainEvent)) : Service α := do
  let (changed,payload) ← ofResult result
  call saveFailure (save changed)
  call appendFailure (append (event changed payload))
  return changed

inductive ConvergeCall where
  | appendAllocating | saveAllocating | appendInviting | saveInviting | appendActive | saveActive
  | appendBinding | saveBinding

section Converge

variable (faults : ConvergeCall → Option DomainError) (tenant : TenantId) (now : UtcTimestamp)

variable (session : MediaSession)

def allocateSession : Service MediaSession :=
  recordCalls (faults .appendAllocating) (faults .saveAllocating) (sessionEvent tenant) saveSession
    (session.allocating now)

def inviteSession : Service MediaSession :=
  recordCalls (faults .appendInviting) (faults .saveInviting) (sessionEvent tenant) saveSession
    (session.inviting now)

def activateSession : Service MediaSession :=
  recordCalls (faults .appendActive) (faults .saveActive) (sessionEvent tenant) saveSession
    (session.active now)

def convergeSession : Service MediaSession :=
  match session.state with
  | .requested => do
    let session ← allocateSession faults tenant now session
    let session ← inviteSession faults tenant now session
    activateSession faults tenant now session
  | .allocating => do
    let session ← inviteSession faults tenant now session
    activateSession faults tenant now session
  | .inviting => activateSession faults tenant now session
  | .active => pure session
  | state => throw (.invalidTransition "MediaSession" (MediaSession.stateName state) "Active")

def convergeBinding (binding : MediaBinding) : Service MediaBinding :=
  match binding.state with
  | .reserved => recordCalls (faults .appendBinding) (faults .saveBinding) (bindingEvent tenant) saveBinding
      (binding.activate now)
  | .needsVerification => recordCalls (faults .appendBinding) (faults .saveBinding) (bindingEvent tenant)
      saveBinding (binding.verified now)
  | _ => pure binding

def convergeActive (binding : MediaBinding) : Service (MediaSession × MediaBinding) := do
  let session ← convergeSession faults tenant now session
  let binding ← convergeBinding faults tenant now binding
  return (session,binding)

end Converge

inductive FailCall where
  | appendSession | saveSession | appendBinding | saveBinding

variable (faults : FailCall → Option DomainError) (tenant : TenantId) (now : UtcTimestamp) (error : ErrorText)

def failStoredSession (session : MediaSession) : Service MediaSession :=
  if session.isTerminal then pure session
  else recordCalls (faults .appendSession) (faults .saveSession) (sessionEvent tenant) saveSession
    (session.failed error now)

def failStoredBinding (binding : MediaBinding) : Service MediaBinding :=
  if binding.isTerminal then pure binding
  else recordCalls (faults .appendBinding) (faults .saveBinding) (bindingEvent tenant) saveBinding
    (binding.failed error now)

def failSessionAndBinding (session : MediaSession) (binding : MediaBinding) : Service Unit := do
  let _ ← failStoredSession faults tenant now error session
  let _ ← failStoredBinding faults tenant now error binding

/-- The calls of `dispatch_reconnect_command`, apart from those of the functions it calls. -/
inductive ReconnectCall where
  | saveOldBinding | appendOldBinding
  | saveOperation | saveBinding | appendOperation | appendBinding | commitBinding
  | releaseUnsent | getOperation
  | getRunning | saveCompleted | appendCompleted | commitError | releaseError | commitConverged
  | saveFailedBinding | appendFailedBinding | saveFailedSession | appendFailedSession
  | saveFailedOperation | appendFailedOperation | commitFailed | releaseFailed
  deriving DecidableEq

/-- What a migration draws from the generators; the key is made of the session, its
generation and a new message id. -/
structure MigrationIds where
  mediaBindingId : MediaBindingId
  operation : Operation.NewIds
  idempotencyKey : String

structure ReconnectFaults where
  reconnect : ReconnectCall → Option DomainError
  send : ExecuteCall → Option DomainError
  converge : ConvergeCall → Option DomainError

def mediaNodeUnavailable : ErrorText := ⟨"media_node_unavailable","media node unavailable"⟩

section

variable (faults : ReconnectCall → Option DomainError)

variable (context : RequestContext) (now : UtcTimestamp) (ids : MigrationIds) (session : MediaSession)
  (tenant : TenantId) (reservation : MediaReservation)

def failOldBinding (now : UtcTimestamp) (binding : MediaBinding) : Service MediaBinding :=
  if binding.isTerminal then pure binding
  else saveCalls (faults .saveOldBinding) (faults .appendOldBinding) (bindingEvent tenant) saveBinding
    (binding.failed mediaNodeUnavailable now)

def reconnectPayload : Except DomainError CommandPayload :=
  match session.purpose with
  | .live => .ok (.startLive session.mediaSessionId session.channelId reservation.mediaNodeId .live)
  | .playback =>
    let startTime := session.playbackStartTime.getD now
    .ok (.startPlayback session.mediaSessionId session.channelId reservation.mediaNodeId startTime
      (session.playbackEndTime.getD startTime) (session.playbackScale.getD (.finite 1)))
  | .talk => .ok (.startTalk session.mediaSessionId session.channelId reservation.mediaNodeId)
  | .broadcast => .ok (.startBroadcast session.mediaSessionId session.channelId reservation.mediaNodeId)
  | .unknown => .error (.invalidArgument "unknown media purpose")

/-- Thirty seconds, whatever is left of the original deadline. -/
def reconnectDeadline : Option UtcTimestamp := some (now + 30000000000)

def reconnectOperation (payload : CommandPayload) : Except DomainError (Operation × DomainEvent) :=
  Operation.new ids.operation now context.tenantId context.principalId ids.idempotencyKey session.deviceId
    ⟨context.tenantId,.mediaSession,session.mediaSessionId⟩ payload (reconnectDeadline now)
    session.ownerEpoch

def reconnectBinding : Except DomainError (MediaBinding × DomainEvent) :=
  MediaBinding.new now ids.mediaBindingId session.mediaSessionId context.tenantId session.channelId
    reservation.mediaNodeId session.ownerEpoch reservation.mediaNodeInstanceEpoch

def registerReconnect
    (oldBinding : MediaBinding) (reservation : MediaReservation) : Service (Operation × MediaBinding) := do
  let tenant := context.tenantId
  let _ ← failOldBinding faults tenant now oldBinding
  let payload ← ofResult (reconnectPayload now session reservation)
  let (operation,submitted) ← ofResult (reconnectOperation context now ids session payload)
  let (binding,bindingCreated) ← ofResult (reconnectBinding context now ids session reservation)
  call (faults .saveOperation) (saveOperation operation)
  call (faults .saveBinding) (saveBinding binding)
  call (faults .appendOperation) (append (operationEvent tenant operation submitted))
  call (faults .appendBinding) (append (bindingEvent tenant binding bindingCreated))
  commitCall (faults .commitBinding)
  return (operation,binding)

def reconnectCommand (sourceNodeId : NodeId) (context : RequestContext) (now : UtcTimestamp)
    (ids : MigrationIds) (session : MediaSession) (operation : Operation)
    (reservation : MediaReservation) : MediaNodeCommand where
  requestId := context.messageId
  tenantId := context.tenantId
  mediaSessionId := session.mediaSessionId
  mediaBindingId := ids.mediaBindingId
  mediaNodeId := reservation.mediaNodeId
  mediaNodeInstanceEpoch := reservation.mediaNodeInstanceEpoch
  operationId := operation.operationId
  ownerEpoch := session.ownerEpoch
  sourceNodeId := sourceNodeId
  deadline := reconnectDeadline now
  idempotencyKey := operation.idempotencyScope.idempotencyKey
  contractVersion := reservation.contractVersion
  payload := operation.command.payload

def completeRunning (now : UtcTimestamp) (operation : Operation) : Service Unit :=
  if operation.status = .running then do
    let _ ← saveCalls (faults .saveCompleted) (faults .appendCompleted) (operationEvent tenant) saveOperation
      (operation.complete .success now)
  else pure ()

def convergeReconnect (faults : ReconnectFaults) (tenant : TenantId) (now : UtcTimestamp)
    (session : MediaSession) (binding : MediaBinding) (operationId : OperationId) :
    Service MediaSession := do
  let (session,_) ← convergeActive faults.converge tenant now session binding
  let operation ← call (faults.reconnect .getRunning) (getOperation tenant operationId)
  completeRunning faults.reconnect tenant now operation
  return session

def settleReconnect (mediaBindingId : MediaBindingId) (post : Service MediaSession) : Service MediaSession := do
  match ← attempt post with
  | .error e => do
    let _ ← attempt (commitCall (faults .commitError))
    releaseReservation (faults .releaseError) mediaBindingId
    throw e
  | .ok session => do
    commitCall (faults .commitConverged)
    return session

def failReconnect (now : UtcTimestamp) (session : MediaSession) (binding : MediaBinding)
    (operation : Operation) (error : ErrorText) : Service Unit := do
  let _ ← saveCalls (faults .saveFailedBinding) (faults .appendFailedBinding) (bindingEvent tenant)
    saveBinding (binding.failed error now)
  let _ ← saveCalls (faults .saveFailedSession) (faults .appendFailedSession) (sessionEvent tenant)
    saveSession (session.failed error now)
  let _ ← saveCalls (faults .saveFailedOperation) (faults .appendFailedOperation) (operationEvent tenant)
    saveOperation (operation.complete (.failure error) now)

end

section

variable (faults : ReconnectFaults) (node : MediaNodeCommand → CommandReply) (sourceNodeId : NodeId)
variable (context : RequestContext) (tenant : TenantId) (now : UtcTimestamp) (ids : MigrationIds)
variable (session : MediaSession) (binding : MediaBinding) (operation : Operation)

def applyReconnectResult : MediaNodeCommandResult → Service MediaSession
  | .completed | .accepted =>
    settleReconnect faults.reconnect binding.mediaBindingId
      (convergeReconnect faults tenant now session binding operation.operationId)
  -- the operation is left running for a later pass
  | .unknownOutcome _ =>
    settleReconnect faults.reconnect binding.mediaBindingId (do
      let (session,_) ← convergeActive faults.converge tenant now session binding
      return session)
  | .failed error => do
    failReconnect faults.reconnect tenant now session binding operation error
    commitCall (faults.reconnect .commitFailed)
    releaseReservation (faults.reconnect .releaseFailed) binding.mediaBindingId
    throw (.unavailable (clampMsg ("media node reconnect failed: " ++ error.code ++ ": " ++ error.message)))

def sendReconnect (command : MediaNodeCommand) (session : MediaSession) (binding : MediaBinding) :
    Service MediaSession := do
  match ← attempt (executeMediaCommand faults.send node now command) with
  | .error e => do
    releaseReservation (faults.reconnect .releaseUnsent) command.mediaBindingId
    throw e
  | .ok result => do
    let operation ← call (faults.reconnect .getOperation) (getOperation command.tenantId command.operationId)
    applyReconnectResult faults command.tenantId now session binding operation result

def dispatchReconnectCommand (oldBinding : MediaBinding) (reservation : MediaReservation) : Service MediaSession := do
  let (operation,binding) ← registerReconnect faults.reconnect context now ids session oldBinding reservation
  sendReconnect faults node now
    (reconnectCommand sourceNodeId context now ids session operation reservation) session binding

end

inductive MigrateCall where
  | commitPending | commitRead | commitAbandoned | releaseAbandoned
  | appendGeneration | saveGeneration | commitGeneration
  | commitAttempt | releaseOld
  deriving DecidableEq

structure MigrationFaults extends ReconnectFaults where
  migrate : MigrateCall → Option DomainError
  fail : FailCall → Option DomainError

structure MigrationEnvironment where
  /-- `ensure_device_and_channel_ready` -/
  ready : Except DomainError Unit
  reserve : Except DomainError MediaReservation
  node : MediaNodeCommand → CommandReply

variable (faults : MigrationFaults) (env : MigrationEnvironment) (node : MediaNodeCommand → CommandReply)
variable (sourceNodeId : NodeId) (context : RequestContext) (tenant : TenantId) (now : UtcTimestamp) (ids : MigrationIds)
variable (error : ErrorText) (session : MediaSession) (binding : MediaBinding) (report : ReconciliationReport)

/-- `fail_session` and its commit, for a session that is not terminal. -/
def failLive : Service Unit :=
  if session.isTerminal then pure ()
  else do
    failSessionAndBinding faults.fail tenant now error session binding
    commitCall (faults.migrate .commitAbandoned)

/-- No migration: the session fails and the old reservation is released. -/
def abandon : Service ReconciliationReport := do
  failLive faults tenant now error session binding
  releaseReservation (faults.migrate .releaseAbandoned) binding.mediaBindingId
  return { report with migrationsFailed := report.migrationsFailed + 1 }

/-- `media_port.reserve_*`, by the purpose of the session. -/
def reserveFor (purpose : MediaPurpose) (reply : Except DomainError MediaReservation) :
    Except DomainError MediaReservation :=
  match purpose with
  | .unknown => .error (.invalidArgument "unknown media purpose for migration")
  | _ => reply

/-- The new generation is stored before the node is asked. -/
def enterGeneration (faults : MigrateCall → Option DomainError) (tenant : TenantId) (now : UtcTimestamp)
    (session : MediaSession) : Service MediaSession := do
  let session ← recordCalls (faults .appendGeneration) (faults .saveGeneration) (sessionEvent tenant)
    saveSession (session.bumpGeneration now)
  commitCall (faults .commitGeneration)
  return session

def counted : Except DomainError MediaSession → ReconciliationReport
  | .ok _ => { report with migrationsSucceeded := report.migrationsSucceeded + 1 }
  | .error _ => { report with migrationsFailed := report.migrationsFailed + 1 }

def migrateReserved (reservation : MediaReservation) (report : ReconciliationReport) :
    Service ReconciliationReport := do
  let session ← enterGeneration faults.migrate context.tenantId now session
  let result ← attempt (dispatchReconnectCommand faults.toReconnectFaults node sourceNodeId context now ids
    session binding reservation)
  commitCall (faults.migrate .commitAttempt)
  releaseReservation (faults.migrate .releaseOld) binding.mediaBindingId
  return counted report result

def migrateOrFail (error : ErrorText) (report : ReconciliationReport) : Service ReconciliationReport := do
  commitCall (faults.migrate .commitPending)
  match env.ready with
  | .error _ => abandon faults context.tenantId now error session binding report
  | .ok () => do
    commitCall (faults.migrate .commitRead)
    match ← attempt (reserveBinding (reserveFor session.purpose env.reserve) ids.mediaBindingId) with
    | .error _ => abandon faults context.tenantId now error session binding report
    | .ok reservation =>
      migrateReserved faults env.node sourceNodeId context now ids session binding reservation report

end CheetahSignaling.MediaMigration
