import CheetahSignaling.MediaCommand

/-! `MediaService::stop_live` and the handling of the node's answer to the stop command.
The session and the operation are committed before the command is sent; what the answer
changes is committed in a second transaction. -/
namespace CheetahSignaling.MediaStop

open Service EStateM Table

structure StopLiveRequest where
  mediaSessionId : MediaSessionId
  idempotencyKey : String

section

variable (node : MediaNodeCommand → CommandReply) (failure : Option DomainError) (sourceNodeId : NodeId)
variable (context : RequestContext) (tenant : TenantId) (now : UtcTimestamp)
variable (session : MediaSession) (binding : MediaBinding) (operation : Operation)

def markStopping : Service MediaSession :=
  if session.state = .active then recordSaved (sessionEvent tenant) saveSession (session.stopping now)
  else pure session

def markStopped : Service MediaSession :=
  if session.isTerminal then pure session
  else recordSaved (sessionEvent tenant) saveSession (session.stopped now)

def markReleasing : Service MediaBinding :=
  if binding.state = .active ∨ binding.state = .reserved ∨ binding.state = .needsVerification then
    recordSaved (bindingEvent tenant) saveBinding (binding.release now)
  else pure binding

def markReleased : Service MediaBinding :=
  if binding.isTerminal then pure binding
  else recordSaved (bindingEvent tenant) saveBinding (binding.released now)

def closeSession : Service MediaSession := do
  markStopped tenant now (← markStopping tenant now session)

def closeBinding : Service MediaBinding := do
  markReleased tenant now (← markReleasing tenant now binding)

def finishOperation (result : OperationResult) : Service Unit := do
  let (operation,event) ← ofResult (operation.complete result now)
  saveOperation operation
  append (operationEvent tenant operation event)

def deferSession : Service MediaSession :=
  if session.isTerminal = false ∧ session.state ≠ .stopping then
    recordSaved (sessionEvent tenant) saveSession (session.stop now)
  else pure session

def deferBinding : Service MediaBinding :=
  if binding.isTerminal = false ∧ binding.state ≠ .releasing then
    recordSaved (bindingEvent tenant) saveBinding (binding.release now)
  else pure binding

/-- Records the intent to stop; the completion arrives later. -/
def deferStop : Service MediaSession := do
  let session ← deferSession tenant now session
  let _ ← deferBinding tenant now binding
  commit
  return session

def failStop (error : ErrorText) : Service Unit := do
  let session ← failSession tenant now error session
  let binding ← failBinding tenant now error binding
  let (operation,event) ← ofResult (operation.complete (.failure error) now)
  saveSession session
  saveBinding binding
  saveOperation operation
  append (operationEvent tenant operation event)
  commit

def applyStopResult : MediaNodeCommandResult → Service MediaSession
  | .completed => do
    let session ← closeSession tenant now session
    let _ ← closeBinding tenant now binding
    finishOperation tenant now operation .success
    commit
    releaseReservation failure binding.mediaBindingId
    return session
  | .accepted => deferStop tenant now session binding
  | .unknownOutcome _ => do
    let session ← deferStop tenant now session binding
    releaseReservation failure binding.mediaBindingId
    return session
  | .failed error => do
    failStop tenant now session binding operation error
    releaseReservation failure binding.mediaBindingId
    throw (.unavailable (clampMsg ("media node stop failed: " ++ error.code ++ ": " ++ error.message)))

def dispatchStopCommand (command : MediaNodeCommand) : Service MediaSession := do
  let result ← executeMediaCommand noFaults node now command
  let operation ← getOperation command.tenantId command.operationId
  let session ← getSession command.tenantId command.mediaSessionId
  let binding ← getBinding command.tenantId command.mediaBindingId
  applyStopResult failure command.tenantId now session binding operation result

def recordStopped (submitted : DomainEvent) : Service MediaSession := do
  let (started,startedEvent) ← ofResult (operation.start now)
  let (completed,completedEvent) ← ofResult (started.complete .success now)
  saveOperation completed
  append (operationEvent tenant operation submitted)
  append (operationEvent tenant started startedEvent)
  append (operationEvent tenant completed completedEvent)
  commit
  return session

def submitStop (submitted : DomainEvent) : Service MediaSession := do
  let (session,stopEvent) ← ofResult (session.stop now)
  saveOperation operation
  saveSession session
  append (operationEvent tenant operation submitted)
  append (sessionEvent tenant session stopEvent)
  commit
  return session

def stopCommand (operationId : OperationId) (deadline : Option UtcTimestamp) (idempotencyKey : String)
    (mediaSessionId : MediaSessionId) (binding : MediaBinding) : MediaNodeCommand where
  requestId := context.messageId
  tenantId := context.tenantId
  mediaSessionId := mediaSessionId
  mediaBindingId := binding.mediaBindingId
  mediaNodeId := binding.mediaNodeId
  mediaNodeInstanceEpoch := binding.mediaNodeInstanceEpoch
  operationId := operationId
  ownerEpoch := binding.ownerEpoch
  sourceNodeId := sourceNodeId
  deadline := deadline
  idempotencyKey := idempotencyKey
  contractVersion := 0
  payload := .stopMediaSession mediaSessionId

def stopLive (ids : Operation.NewIds) (request : StopLiveRequest) : Service MediaSession := do
  let target : ResourceRef := ⟨context.tenantId,.mediaSession,request.mediaSessionId⟩
  let scope ← ofResult (IdempotencyScope.new context.tenantId context.principalId target request.idempotencyKey)
  match ← findOperationByIdempotency scope with
  | some _ => getSession context.tenantId request.mediaSessionId
  | none => do
    let session ← getSession context.tenantId request.mediaSessionId
    let (operation,submitted) ← ofResult (Operation.new ids now context.tenantId context.principalId
      scope.idempotencyKey session.deviceId scope.target (.stopMediaSession request.mediaSessionId) none
      session.ownerEpoch)
    if session.isTerminal then recordStopped context.tenantId now session operation submitted
    else do
      let binding ← required "media binding" request.mediaSessionId
        (← findByMediaSession context.tenantId request.mediaSessionId)
      let session ← submitStop context.tenantId now session operation submitted
      dispatchStopCommand node failure now
        (stopCommand sourceNodeId context operation.operationId operation.deadline
          operation.idempotencyScope.idempotencyKey session.mediaSessionId binding)

end

section Answers

theorem run_deferBinding (tenant : TenantId) (now : UtcTimestamp)
    (stored : w.working.bindings.find binding.mediaBindingId = some binding)
    (live : binding.isTerminal = false) :
    ∃ b w', (deferBinding tenant now binding).run w = .ok b w' ∧ b.state = .releasing ∧
      b.mediaBindingId = binding.mediaBindingId ∧
      w'.working.bindings.find b.mediaBindingId = some b ∧
      w'.working.sessions = w.working.sessions ∧ w'.working.operations = w.working.operations ∧
      w'.reserved = w.reserved := by
  by_cases releasing : binding.state = .releasing
  · exact ⟨binding,w,by simp [deferBinding,releasing],releasing,rfl,stored,rfl,rfl,rfl⟩
  obtain ⟨w',ran,same⟩ := run_recordSaved_binding stored
    (binding.transitionTo_ok live (MediaBinding.releasing_allowed _ live releasing) nofun : binding.release now = _)
  refine ⟨binding.moved now .releasing none,w',?_,rfl,rfl,?_,same.sessions,same.operations,same.reserved⟩
  · rw [deferBinding,if_pos ⟨live,releasing⟩]
    exact ran
  · rw [same.bindings]
    exact find_put_same ..

theorem markReleasing_eq : markReleasing tenant now binding = deferBinding tenant now binding := by
  refine if_congr ?_ rfl rfl
  unfold MediaBinding.isTerminal
  cases binding.state <;> decide

theorem run_closeBinding (tenant : TenantId) (now : UtcTimestamp)
    (stored : w.working.bindings.find binding.mediaBindingId = some binding)
    (live : binding.isTerminal = false) :
    ∃ b w', (closeBinding tenant now binding).run w = .ok b w' ∧
      w'.working.bindings.find binding.mediaBindingId = some b ∧ b.isTerminal = true ∧
      w'.working.operations = w.working.operations ∧ w'.reserved = w.reserved := by
  obtain ⟨b,w₁,releasing,state,id,stored,-,operations,reserved⟩ := run_deferBinding tenant now stored live
  obtain ⟨w₂,released,same⟩ := run_recordSaved_binding stored
    (b.transitionTo_ok (by rw [state]; rfl) (by rw [state]; rfl) nofun : b.released now = _)
  refine ⟨b.moved now .released none,w₂,?_,?_,rfl,same.operations.trans operations,same.reserved.trans reserved⟩
  · have notTerminal : ¬ (b.isTerminal = true) := by
      simp [MediaBinding.isTerminal,state,MediaBinding.terminal]
    rw [closeBinding,markReleasing_eq,run_bind,releasing]
    simp only [markReleased]
    rw [if_neg notTerminal]
    exact released
  · rw [same.bindings,← id]
    exact find_put_same ..

theorem run_closeSession (tenant : TenantId) (now : UtcTimestamp)
    (stored : w.HasSession session)
    (state : session.state = .stopping ∨ session.state = .stopped) :
    ∃ s w', (closeSession tenant now session).run w = .ok s w' ∧
      w'.working.bindings = w.working.bindings ∧ w'.working.operations = w.working.operations ∧
      w'.reserved = w.reserved := by
  rcases state with stopping | stopped
  · obtain ⟨w',ran,same⟩ := run_recordSaved World.putSession
      (session.transitionTo_ok (by rw [stopping]; rfl) (by rw [stopping]; rfl) nofun : session.stopped now = _)
      (fun w₁ tables => saveSession_next (r := session)
        (by rw [tables.sessions]; exact stored) rfl) fun _ tables => tables.putSession _
    refine ⟨session.moved now .stopped none,w',?_,same.bindings,same.operations,same.reserved⟩
    simpa [closeSession,markStopping,markStopped,stopping,MediaSession.isTerminal,MediaSession.terminal,
      MediaSession.stopped] using ran
  · exact ⟨session,w,by simp [closeSession,markStopping,markStopped,stopped,MediaSession.isTerminal,
      MediaSession.terminal],rfl,rfl,rfl⟩

theorem deferSession_eq (state : session.state = .stopping ∨ session.state = .stopped) :
    deferSession tenant now session = pure session := by
  rcases state with state | state <;>
    simp [deferSession,state,MediaSession.isTerminal,MediaSession.terminal]

theorem run_finishOperation (tenant : TenantId) (now : UtcTimestamp) (result : OperationResult)
    (stored : w.working.operations.find operation.operationId = some operation)
    (running : operation.status = .running) (valid : result.validate = .ok ()) :
    ∃ w', (finishOperation tenant now operation result).run w = .ok () w' ∧
      w'.working.operations.find operation.operationId = some (operation.completed result now) ∧
      w'.working.bindings = w.working.bindings ∧ w'.reserved = w.reserved := by
  have saved : (saveOperation (operation.completed result now)).run w =
      .ok () (w.putOperation (operation.completed result now)) := saveOperation_next stored rfl
  have finished : (finishOperation tenant now operation result).run w =
      .ok () ((w.putOperation (operation.completed result now)).emit
        (operationEvent tenant (operation.completed result now)
          ((operation.completed result now).stateChangedEvent .running))) := by
    simp [finishOperation,operation.complete_running result now running valid,saved]
  refine ⟨_,finished,?_,rfl,rfl⟩
  exact find_put_same ..

/-- The operation and the binding are terminal and the node holds nothing for the binding. -/
structure Settled (w : World) (operationId : OperationId) (bindingId : MediaBindingId) : Prop where
  operation : ∃ op, w.committed.operations.find operationId = some op ∧ op.isTerminal = true
  binding : ∃ b, w.committed.bindings.find bindingId = some b ∧ b.isTerminal = true
  released : w.reserved bindingId = false

/-- The rows when the stop command is out. -/
structure Pending (w : World) (operation : Operation) (session : MediaSession)
    (binding : MediaBinding) : Prop where
  storedOperation : w.working.operations.find operation.operationId = some operation
  running : operation.status = .running
  storedSession : w.working.sessions.find session.mediaSessionId = some session
  sessionState : session.state = .stopping ∨ session.state = .stopped
  storedBinding : w.working.bindings.find binding.mediaBindingId = some binding
  live : binding.isTerminal = false
  committed : w.committed = w.working

def Freed (failure : Option DomainError) (w : World) (id : MediaBindingId) : Prop :=
  failure = none ∨ w.reserved id = false

theorem run_releaseReservation (failure : Option DomainError) (id : MediaBindingId) (w : World) :
    ∃ w', (releaseReservation failure id).run w = .ok () w' ∧ w'.committed = w.committed ∧
      (w'.reserved id = false ↔ Freed failure w id) := by
  cases failure with
  | none => exact ⟨_,rfl,rfl,by simp [Freed]⟩
  | some e => exact ⟨w,rfl,rfl,by simp [Freed]⟩

variable (failure : Option DomainError)

variable (tenant : TenantId) (now : UtcTimestamp) (pending : Pending w operation session binding) (error : ErrorText)
include pending

theorem Pending.completed : ∃ s w', (applyStopResult failure tenant now session binding operation .completed).run w =
        .ok s w' ∧
      (Settled w' operation.operationId binding.mediaBindingId ↔ Freed failure w binding.mediaBindingId) := by
  obtain ⟨s,w₁,closed,bindings₁,operations₁,reserved₁⟩ :=
    run_closeSession tenant now pending.storedSession pending.sessionState
  obtain ⟨b,w₂,closed',stored,terminal,operations₂,reserved₂⟩ :=
    run_closeBinding tenant now (bindings₁.symm ▸ pending.storedBinding) pending.live
  have operations := operations₂.trans operations₁
  obtain ⟨w₃,finished,storedOperation,bindings₃,reserved₃⟩ := run_finishOperation tenant now .success
    (operations.symm ▸ pending.storedOperation) pending.running rfl
  obtain ⟨w₄,freed,committed,free⟩ := run_releaseReservation failure binding.mediaBindingId w₃.commit
  have reserved : w₃.commit.reserved = w.reserved := reserved₃.trans (reserved₂.trans reserved₁)
  rw [Freed,reserved] at free
  refine ⟨s,w₄,?_,fun settled => free.mp settled.released,fun released => ⟨?_,?_,free.mpr released⟩⟩
  · simp only [applyStopResult,run_bind,closed,closed',finished,run_commit,freed,run_pure]
  · exact ⟨_,by rw [committed]; exact storedOperation,operation.completed_terminal⟩
  · exact ⟨b,by rw [committed,World.commit_committed,bindings₃,stored],terminal⟩

theorem Pending.deferred : ∃ w', (deferStop tenant now session binding).run w = .ok session w' := by
  obtain ⟨b,w₁,deferred,-⟩ := run_deferBinding tenant now pending.storedBinding pending.live
  refine ⟨w₁.commit,?_⟩
  simp only [deferStop,deferSession_eq pending.sessionState,run_bind,run_pure,deferred,run_commit]

theorem run_failStop (stopping : session.state = .stopping) (fits : error.Fits) :
    ∃ w', (failStop tenant now session binding operation error).run w = .ok () w' ∧
      w'.committed.operations.find operation.operationId = some (operation.completed (.failure error) now) ∧
      w'.committed.bindings.find binding.mediaBindingId = some (binding.moved now .failed (some error)) ∧
      w'.reserved = w.reserved := by
  have liveSession : session.isTerminal = false := by
    rw [MediaSession.isTerminal,stopping]
    rfl
  obtain ⟨w₁,failS,same₁⟩ := run_failSession_live tenant now w liveSession fits
  obtain ⟨w₂,failB,same₂⟩ := run_failBinding_live tenant now pending.live fits
  have same := same₁.trans same₂
  have complete := operation.complete_running (.failure error) now pending.running
    (error.validate_fits "operation" fits)
  have saveS : (saveSession (session.moved now .failed (some error))).run w₂ =
      .ok () (w₂.putSession (session.moved now .failed (some error))) :=
    saveSession_next (r := session) (by rw [same.sessions]; exact pending.storedSession) rfl
  have saveB : (saveBinding (binding.moved now .failed (some error))).run
      (w₂.putSession (session.moved now .failed (some error))) = .ok () _ :=
    saveBinding_next (r := binding)
      (by rw [World.putSession_bindings,same.bindings]; exact pending.storedBinding) rfl
  have saveO : (saveOperation (operation.completed (.failure error) now)).run
      ((w₂.putSession (session.moved now .failed (some error))).putBinding
        (binding.moved now .failed (some error))) = .ok () _ :=
    saveOperation_next (r := operation) (by
      rw [World.putBinding_operations,World.putSession_operations,same.operations]
      exact pending.storedOperation) rfl
  simp only [failStop,run_bind,failS,failB,complete,run_ofResult_ok,saveS,saveB,saveO]
  refine ⟨_,rfl,?_,?_,same.reserved⟩
  · exact find_put_same ..
  · exact find_put_same ..

/-- A failure is settled like a completion if the session was still `Stopping`. -/
theorem Pending.failed (stopping : session.state = .stopping) (fits : error.Fits) :
    ∃ text w', (applyStopResult failure tenant now session binding operation (.failed error)).run w =
        .error (.unavailable text) w' ∧
      (Settled w' operation.operationId binding.mediaBindingId ↔ Freed failure w binding.mediaBindingId) := by
  obtain ⟨w₁,stopped,storedOperation,storedBinding,reserved⟩ := run_failStop tenant now pending error stopping fits
  obtain ⟨w₂,freed,committed,free⟩ := run_releaseReservation failure binding.mediaBindingId w₁
  rw [Freed,reserved] at free
  simp only [applyStopResult,run_bind,stopped,freed]
  exact ⟨_,w₂,rfl,fun settled => free.mp settled.released,
    fun released => ⟨⟨_,committed ▸ storedOperation,operation.completed_terminal⟩,
      ⟨_,committed ▸ storedBinding,rfl⟩,free.mpr released⟩⟩

theorem Pending.oversized (oversized : ¬ error.Fits) :
    ∃ e w', (applyStopResult failure tenant now session binding operation (.failed error)).run w =
        .error e w' ∧ ¬ Settled w' operation.operationId binding.mediaBindingId := by
  have unsettled (w' : World) (committed : w'.committed = w.committed) :
      ¬ Settled w' operation.operationId binding.mediaBindingId := by
    intro settled
    obtain ⟨op,stored,terminal⟩ := settled.operation
    rw [committed,pending.committed,pending.storedOperation] at stored
    cases stored
    simp [Operation.isTerminal,pending.running,OperationStatus.isTerminal] at terminal
  rcases pending.sessionState with stopping | stopped
  · have live : session.isTerminal = false := by
      rw [MediaSession.isTerminal,stopping]
      rfl
    obtain ⟨e,refused⟩ := failSession_refused tenant now w live oversized
    refine ⟨e,w,?_,unsettled w rfl⟩
    simp [applyStopResult,failStop,refused]
  have terminal : session.isTerminal = true := by
    rw [MediaSession.isTerminal,stopped]
    rfl
  obtain ⟨e,refused⟩ := failBinding_refused tenant now w pending.live oversized
  refine ⟨e,w,?_,unsettled w rfl⟩
  simp only [applyStopResult,failStop,run_bind,run_failSession_terminal terminal,refused]

/-- A session that is `Stopped` already is saved again under its own revision. -/
theorem Pending.conflict (stopped : session.state = .stopped) (fits : error.Fits) : ∃ expected found w',
      (applyStopResult failure tenant now session binding operation (.failed error)).run w =
        .error (.concurrentModification expected found) w' := by
  have terminal : session.isTerminal = true := by
    rw [MediaSession.isTerminal,stopped]
    rfl
  obtain ⟨w₁,failB,same⟩ := run_failBinding_live tenant now pending.live fits
  have complete := operation.complete_running (.failure error) now pending.running
    (error.validate_fits "operation" fits)
  have refused : (saveSession session).run _ = _ := saveIn_stale
    (by rw [same.sessions]; exact pending.storedSession) (by omega)
  simp only [applyStopResult,failStop,run_bind,run_failSession_terminal terminal,failB,complete,
    run_ofResult_ok,refused]
  exact ⟨_,_,w₁,rfl⟩

end Answers

theorem run_dispatchStopCommand (failure : Option DomainError) (command : MediaNodeCommand)
    (storedOperation : w.working.operations.find command.operationId = some operation)
    (operationTenant : operation.tenantId = command.tenantId) (pending : operation.status = .pending)
    (storedSession : w.working.sessions.find command.mediaSessionId = some session)
    (sessionTenant : session.tenantId = command.tenantId)
    (sessionState : session.state = .stopping ∨ session.state = .stopped)
    (storedBinding : w.working.bindings.find command.mediaBindingId = some binding)
    (bindingTenant : binding.tenantId = command.tenantId) (live : binding.isTerminal = false) :
    ∃ w', Pending w' (operation.started now) session binding ∧ w'.reserved = w.reserved ∧
      (dispatchStopCommand node failure now command).run w =
        (applyStopResult failure command.tenantId now session binding (operation.started now)
          (node command).result).run w' := by
  obtain ⟨w',executed,operations,sessions,bindings,committed,reserved⟩ :=
    run_executeMediaCommand node storedOperation operationTenant pending
  have operationId := ((find_eq_some _).mp storedOperation).2
  have sessionId := ((find_eq_some _).mp storedSession).2
  have bindingId := ((find_eq_some _).mp storedBinding).2
  have started : w'.working.operations.find command.operationId = some (operation.started now) := by
    rw [operations,← operationId]
    exact find_put_same ..
  rw [← sessions] at storedSession
  rw [← bindings] at storedBinding
  refine ⟨w',⟨?_,rfl,sessionId.symm ▸ storedSession,sessionState,bindingId.symm ▸ storedBinding,live,
    committed⟩,reserved,?_⟩
  · rw [Operation.started_id,operationId,started]
  · simp [dispatchStopCommand,executed,getOperation_stored started operationTenant,
      getSession_stored storedSession sessionTenant,getBinding_stored storedBinding bindingTenant]

theorem run_submitStop (tenant : TenantId) (now : UtcTimestamp) (submitted : DomainEvent)
    (fresh : w.working.operations.find operation.operationId = none)
    (stored : w.working.sessions.find session.mediaSessionId = some session) (live : session.isTerminal = false) :
    ∃ stopping w', (submitStop tenant now session operation submitted).run w = .ok stopping w' ∧
      stopping.mediaSessionId = session.mediaSessionId ∧ stopping.tenantId = session.tenantId ∧
      stopping.state = (if session.state = .active then .stopping else .stopped) ∧
      w'.working.operations.find operation.operationId = some operation ∧
      w'.working.sessions.find session.mediaSessionId = some stopping ∧
      w'.working.bindings = w.working.bindings ∧ w'.reserved = w.reserved := by
  obtain ⟨stopping,event,stop,id,tenant,revision,state⟩ := session.stop_live now live
  have saveO : (saveOperation operation).run w = .ok () (w.putOperation operation) := saveIn_fresh fresh
  have saveS : (saveSession stopping).run (w.putOperation operation) =
      .ok () ((w.putOperation operation).putSession stopping) :=
    saveSession_next (id.symm ▸ stored) revision.symm
  simp only [submitStop,run_bind,stop,run_ofResult_ok,saveO,saveS]
  refine ⟨stopping,_,rfl,id,tenant,state,?_,?_,rfl,rfl⟩
  · exact find_put_same ..
  · rw [← id]
    exact find_put_same ..

def sentCommand (sourceNodeId : NodeId) (context : RequestContext) (ids : Operation.NewIds)
    (request : StopLiveRequest) (binding : MediaBinding) : MediaNodeCommand :=
  stopCommand sourceNodeId context ids.operationId none request.idempotencyKey request.mediaSessionId
    binding

/-- The stores and requests for which the node is asked: a new request for a live session
that has a live binding. -/
structure Ready (store : Store) (context : RequestContext) (request : StopLiveRequest)
    (session : MediaSession) (binding : MediaBinding) : Prop where
  scope : IdempotencyScope.new context.tenantId context.principalId
    ⟨context.tenantId,.mediaSession,request.mediaSessionId⟩ request.idempotencyKey =
      .ok ⟨context.tenantId,context.principalId,
        ⟨context.tenantId,.mediaSession,request.mediaSessionId⟩,request.idempotencyKey⟩
  unseen : store.operationByIdempotency ⟨context.tenantId,context.principalId,
    ⟨context.tenantId,.mediaSession,request.mediaSessionId⟩,request.idempotencyKey⟩ = none
  stored : store.sessions.find request.mediaSessionId = some session
  tenant : session.tenantId = context.tenantId
  device : session.deviceId ≠ 0
  live : session.isTerminal = false
  current : store.currentBinding context.tenantId request.mediaSessionId = some binding

section Request

variable {failure : Option DomainError}

/-- A stop comes down to the application of the answer of the node. -/
theorem Ready.run (node : MediaNodeCommand → CommandReply) (failure : Option DomainError)
    (sourceNodeId : NodeId) (now : UtcTimestamp) (reserved : MediaBindingId → Bool)
    (ready : Ready store context request session binding)
    (fresh : store.operations.find ids.operationId = none) :
    ∃ w operation stopping, Pending w operation stopping binding ∧ operation.operationId = ids.operationId ∧
      (stopping.state = .stopping ↔ session.state = .active) ∧ w.reserved = reserved ∧
      (stopLive node failure sourceNodeId context now ids request).run (.opened store reserved) =
        (applyStopResult failure context.tenantId now stopping binding operation
          (node (sentCommand sourceNodeId context ids request binding)).result).run w := by
  obtain ⟨storedBinding,bindingTenant,bindingSession,liveBinding⟩ := Store.currentBinding_stored ready.current
  have sessionId := ((find_eq_some _).mp ready.stored).2
  rcases Operation.new_cases ids now context.tenantId context.principalId request.idempotencyKey
    session.deviceId ⟨context.tenantId,.mediaSession,request.mediaSessionId⟩
    (.stopMediaSession request.mediaSessionId) none session.ownerEpoch ready.scope rfl with
    ⟨nil,-⟩ | ⟨-,operation,submitted,created,new⟩
  · exact absurd nil ready.device
  obtain ⟨stopping,w₁,submit,stoppingId,stoppingTenant,state,storedOperation,storedSession,bindings,kept⟩ :=
    run_submitStop (w := .opened store reserved) context.tenantId now submitted (new.id.symm ▸ fresh)
      (sessionId.symm ▸ ready.stored) ready.live
  rw [new.id] at storedOperation
  rw [sessionId] at storedSession
  obtain ⟨w₂,pending,kept',ran⟩ := run_dispatchStopCommand failure
    (sentCommand sourceNodeId context ids request binding) storedOperation new.tenant new.pending
    storedSession (stoppingTenant.trans ready.tenant) (by rw [state]; split <;> simp)
    (bindings ▸ storedBinding) bindingTenant liveBinding
  have sent : stopCommand sourceNodeId context operation.operationId operation.deadline
      operation.idempotencyScope.idempotencyKey stopping.mediaSessionId binding =
        sentCommand sourceNodeId context ids request binding := by
    rw [sentCommand,new.id,new.due,new.key,stoppingId,sessionId]
  refine ⟨w₂,operation.started now,stopping,pending,new.id,?_,kept'.trans kept,?_⟩
  · rw [state]
    split <;> simp [*]
  refine Eq.trans ?_ ran
  have got : (getSession context.tenantId request.mediaSessionId).run (.opened store reserved) =
      .ok session (.opened store reserved) := getSession_stored ready.stored ready.tenant
  have unseen : (findOperationByIdempotency ⟨context.tenantId,context.principalId,
      ⟨context.tenantId,.mediaSession,request.mediaSessionId⟩,request.idempotencyKey⟩).run
        (.opened store reserved) = .ok none (.opened store reserved) := by
    exact congrArg (EStateM.Result.ok · _) ready.unseen
  have found : (findByMediaSession context.tenantId request.mediaSessionId).run (.opened store reserved) =
      .ok (some binding) (.opened store reserved) := by
    exact congrArg (EStateM.Result.ok · _) ready.current
  simp [stopLive,ready.scope,unseen,got,created,ready.live,found,submit,sent]

theorem run_recordStopped (tenant : TenantId) (now : UtcTimestamp) (session : MediaSession) (submitted : DomainEvent)
    (pending : operation.status = .pending) (fresh : w.working.operations.find operation.operationId = none) :
    ∃ w', (recordStopped tenant now session operation submitted).run w = .ok session w' := by
  have saved : (saveOperation ((operation.started now).completed .success now)).run w = .ok () _ := saveIn_fresh fresh
  simp only [recordStopped,run_bind,operation.start_pending pending,run_ofResult_ok,
    (operation.started now).complete_running .success now rfl rfl,saved]
  exact ⟨_,rfl⟩

/-- A request that never reaches the node does not fail with a conflict. -/
theorem conflict_ready (fresh : store.operations.find ids.operationId = none)
    (ran : (stopLive node failure sourceNodeId context now ids request).run (.opened store reserved) =
      .error (.concurrentModification expected found) w') :
    ∃ session binding, Ready store context request session binding := by
  rcases IdempotencyScope.new_cases context.tenantId context.principalId
    ⟨context.tenantId,.mediaSession,request.mediaSessionId⟩ request.idempotencyKey with scope | ⟨text,refused⟩
  swap
  · simp [stopLive,refused] at ran
  simp only [stopLive,run_bind,scope,run_ofResult_ok,run_findOperationByIdempotency] at ran
  cases unseen : (World.opened store reserved).working.operationByIdempotency ⟨context.tenantId,
    context.principalId,⟨context.tenantId,.mediaSession,request.mediaSessionId⟩,request.idempotencyKey⟩ with
  | some op =>
    rw [unseen] at ran
    cases getSession_error ran
  | none =>
    simp only [unseen,run_bind] at ran
    cases got : (getSession context.tenantId request.mediaSessionId).run (.opened store reserved) with
    | error e w₁ =>
      rw [got] at ran
      cases ran
      cases getSession_error got
    | ok session w₁ =>
      obtain ⟨rfl,stored,tenant⟩ := getSession_ok got
      rw [got] at ran
      rcases Operation.new_cases ids now context.tenantId context.principalId request.idempotencyKey
        session.deviceId ⟨context.tenantId,.mediaSession,request.mediaSessionId⟩
        (.stopMediaSession request.mediaSessionId) none session.ownerEpoch scope rfl with
        ⟨-,text,refused⟩ | ⟨device,operation,submitted,created,new⟩
      · simp [refused] at ran
      simp only [created] at ran
      cases live : session.isTerminal with
      | true =>
        obtain ⟨w₂,done⟩ := run_recordStopped (w := .opened store reserved) context.tenantId now session
          submitted new.pending (new.id.symm ▸ fresh)
        simp [live,done] at ran
      | false =>
        cases current : store.currentBinding context.tenantId request.mediaSessionId with
        | none =>
          have missing : (World.opened store reserved).working.currentBinding context.tenantId
              request.mediaSessionId = none := current
          simp [live,missing] at ran
        | some binding => exact ⟨session,binding,scope,unseen,stored,tenant,device,live,current⟩

end Request

def Final : MediaNodeCommandResult → Prop
  | .completed | .failed _ => True
  | .accepted | .unknownOutcome _ => False

/-- `stop_live` never reports a conflict, and a final answer settles the stop. -/
structure Converges (node : MediaNodeCommand → CommandReply) (failure : Option DomainError)
    (sourceNodeId : NodeId) (context : RequestContext) (now : UtcTimestamp) (ids : Operation.NewIds)
    (request : StopLiveRequest) (store : Store) (reserved : MediaBindingId → Bool) : Prop where
  noConflict : ∀ expected found w',
    (stopLive node failure sourceNodeId context now ids request).run (.opened store reserved) ≠
      .error (.concurrentModification expected found) w'
  settles : ∀ session binding, Ready store context request session binding →
    Final (node (sentCommand sourceNodeId context ids request binding)).result →
    Settled ((stopLive node failure sourceNodeId context now ids request).leaves
      (.opened store reserved)) ids.operationId binding.mediaBindingId

/-- The answers of the node after which a stop converges. -/
def Recovers (failure : Option DomainError) (reserved : MediaBindingId → Bool)
    (session : MediaSession) (binding : MediaBinding) : MediaNodeCommandResult → Prop
  | .completed => failure = none ∨ reserved binding.mediaBindingId = false
  | .failed error => session.state = .active ∧ error.Fits ∧
      (failure = none ∨ reserved binding.mediaBindingId = false)
  | .accepted | .unknownOutcome _ => True

section Convergence

variable {failure : Option DomainError}

theorem Pending.recovers_iff
    (pending : Pending w operation stopping binding)
    (state : stopping.state = .stopping ↔ session.state = .active) :
    ((∀ expected found w', (applyStopResult failure tenant now stopping binding operation result).run w ≠
        .error (.concurrentModification expected found) w') ∧
      (Final result → Settled ((applyStopResult failure tenant now stopping binding operation
        result).leaves w) operation.operationId binding.mediaBindingId)) ↔
      Recovers failure w.reserved session binding result := by
  cases result with
  | completed =>
    obtain ⟨s,w',ran,settled⟩ := pending.completed failure tenant now
    simp [ran,leaves,Final,Recovers,settled,Freed]
  | accepted =>
    obtain ⟨w',ran⟩ := pending.deferred tenant now
    simp [applyStopResult,ran,Final,Recovers]
  | unknownOutcome error =>
    obtain ⟨w',ran⟩ := pending.deferred tenant now
    obtain ⟨w'',freed,-⟩ := run_releaseReservation failure binding.mediaBindingId w'
    have done : (applyStopResult failure tenant now stopping binding operation
        (.unknownOutcome error)).run w = .ok stopping w'' := by
      simp only [applyStopResult,run_bind,ran,freed,run_pure]
    simp [done,Final,Recovers]
  | failed error =>
    by_cases fits : error.Fits
    · rcases pending.sessionState with stopping | stopped
      · obtain ⟨text,w',ran,settled⟩ := pending.failed failure tenant now error
          stopping fits
        simp [ran,leaves,Final,Recovers,settled,Freed,fits,state.mp stopping]
      obtain ⟨expected,found,w',ran⟩ := pending.conflict failure tenant now error
        stopped fits
      have inactive : session.state ≠ .active := by
        intro active
        rw [state.mpr active] at stopped
        cases stopped
      simp [ran,Recovers,inactive]
    · obtain ⟨e,w',ran,unsettled⟩ := pending.oversized failure tenant now error fits
      simp [ran,leaves,Final,Recovers,unsettled,fits]

end Convergence

/-- For every store and every answer of the node, `stop_live` converges exactly when each
live session it is asked to stop recovers from the answer. -/
theorem stop_live_converges_iff (node : MediaNodeCommand → CommandReply)
    (failure : Option DomainError) (sourceNodeId : NodeId) (context : RequestContext)
    (now : UtcTimestamp) (ids : Operation.NewIds) (request : StopLiveRequest) (store : Store)
    (reserved : MediaBindingId → Bool) (fresh : store.operations.find ids.operationId = none) :
    Converges node failure sourceNodeId context now ids request store reserved ↔
      ∀ session binding, Ready store context request session binding → Recovers failure reserved session binding
          (node (sentCommand sourceNodeId context ids request binding)).result := by
  constructor
  · intro converges session binding ready
    obtain ⟨w,operation,stopping,pending,id,state,kept,ran⟩ := ready.run node failure sourceNodeId now reserved fresh
    have noConflict := converges.noConflict
    have settles := converges.settles session binding ready
    simp only [leaves,ran] at noConflict settles
    rw [← kept]
    exact (pending.recovers_iff state).mp ⟨noConflict,id ▸ settles⟩
  intro recovers
  constructor
  · intro expected found w' conflict
    obtain ⟨session,binding,ready⟩ := conflict_ready fresh conflict
    obtain ⟨w,operation,stopping,pending,id,state,kept,ran⟩ := ready.run node failure sourceNodeId now reserved fresh
    rw [ran] at conflict
    exact ((pending.recovers_iff state).mpr (kept ▸ recovers session binding ready)).1
      expected found w' conflict
  intro session binding ready final
  obtain ⟨w,operation,stopping,pending,id,state,kept,ran⟩ := ready.run node failure sourceNodeId now reserved fresh
  simp only [leaves,ran]
  rw [← id]
  exact ((pending.recovers_iff state).mpr (kept ▸ recovers session binding ready)).2 final

def sampleContext : RequestContext := ⟨1,"operator",77⟩
def sampleRequest : StopLiveRequest := ⟨10,"stop"⟩
def sampleIds : Operation.NewIds := ⟨50,51,52,53⟩

theorem sample_ready (live : MediaSession.terminal state = false) :
    Ready (Sample.world state .active .running).committed sampleContext sampleRequest (Sample.session state)
      (Sample.binding .active) :=
  ⟨rfl,rfl,rfl,rfl,(by decide : (3 : Nat) ≠ 0),live,rfl⟩

theorem completed_stop_converges : Ready (Sample.world .active .active .running).committed sampleContext sampleRequest
        (Sample.session .active) (Sample.binding .active) ∧
      Converges (fun _ => .ok .completed) none 9 sampleContext 5 sampleIds sampleRequest
        (Sample.world .active .active .running).committed (fun id => id == 30) :=
  ⟨sample_ready rfl,(stop_live_converges_iff _ _ _ _ _ _ _ _ _ rfl).mpr fun _ _ _ => .inl rfl⟩

/-- A session that is still `Inviting` when the node refuses the stop. -/
theorem failed_stop_conflicts : Ready (Sample.world .inviting .active .running).committed sampleContext sampleRequest
        (Sample.session .inviting) (Sample.binding .active) ∧
      ∃ after, (stopLive (fun _ => .ok (.failed ⟨"busy","node is busy"⟩)) none 9 sampleContext 5 sampleIds
          sampleRequest).run (.opened (Sample.world .inviting .active .running).committed fun id => id == 30) =
        .error (.concurrentModification 2 3) after :=
  ⟨sample_ready rfl,_,rfl⟩

end CheetahSignaling.MediaStop
