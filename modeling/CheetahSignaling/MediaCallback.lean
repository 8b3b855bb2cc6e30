import CheetahSignaling.MediaStore

/-! `MediaService::apply_media_event` and its three handlers. A handler keeps its changed
copies of the session, the binding and the operation; each is saved once at the end if
its state changed. The caller commits; `handleMediaEvent` is the caller that does so at
once. The returned session stands for its DTO. -/
namespace CheetahSignaling.MediaCallback

open Service EStateM

inductive Kind where
  | started
  | stopped (reason : String)
  | failed (error : ErrorText)
  deriving DecidableEq

structure MediaNodeCallback where
  mediaNodeId : NodeId
  mediaNodeInstanceEpoch : Nat
  mediaSessionId : MediaSessionId
  mediaBindingId : MediaBindingId
  operationId : Option OperationId
  ownerEpoch : OwnerEpoch
  (bindingRevision sessionRevision : Nat)
  kind : Kind

section

variable (tenant : TenantId) (now : UtcTimestamp) (session : MediaSession) (binding : MediaBinding)
  (operation : Option Operation)

def completeOperation (result : OperationResult) : Service (Option Operation) :=
  match operation with
  | some op =>
    if op.isTerminal then pure operation
    else do return some (← record (operationEvent tenant) (op.complete result now))
  | none => pure operation

def startSession : Service MediaSession := do
  let session ←
    if session.state = .allocating then do
      let session ← record (sessionEvent tenant) (session.inviting now)
      saveSession session
      pure session
    else pure session
  if session.state = .inviting then record (sessionEvent tenant) (session.active now)
  else pure session

def activateBinding : Service MediaBinding :=
  if binding.state = .reserved ∨ binding.state = .needsVerification then
    record (bindingEvent tenant) (binding.activate now)
  else pure binding

def applyStarted : Service (MediaSession × MediaBinding × Option Operation) := do
  let session ← startSession tenant now session
  let binding ← activateBinding tenant now binding
  let operation ← completeOperation tenant now operation .success
  return (session,binding,operation)

def stopSession : Service MediaSession := do
  let session ←
    if session.state = .active then record (sessionEvent tenant) (session.stopping now)
    else pure session
  if session.isTerminal then pure session
  else record (sessionEvent tenant) (session.stopped now)

def releaseBinding : Service MediaBinding := do
  let binding ←
    if binding.state = .active ∨ binding.state = .needsVerification then
      record (bindingEvent tenant) (binding.release now)
    else pure binding
  if binding.state = .releasing then record (bindingEvent tenant) (binding.released now)
  else pure binding

variable (callback : MediaNodeCallback) (reason : String)

def stopResult : OperationResult :=
  if reason = "" then .success else .failure ⟨"stopped",reason⟩

def applyStopped : Service (MediaSession × MediaBinding × Option Operation) := do
  let session ← stopSession tenant now session
  let binding ← releaseBinding tenant now binding
  let operation ← completeOperation tenant now operation (stopResult reason)
  return (session,binding,operation)

def applyFailed (error : ErrorText) : Service (MediaSession × MediaBinding × Option Operation) := do
  let session ← failSession tenant now error session
  let binding ← failBinding tenant now error binding
  let operation ← completeOperation tenant now operation (.failure error)
  return (session,binding,operation)

def applyKind : Kind → Service (MediaSession × MediaBinding × Option Operation)
  | .started => applyStarted tenant now session binding operation
  | .stopped reason => applyStopped tenant now session binding operation reason
  | .failed error => applyFailed tenant now session binding operation error

def saveChanged (before : MediaSession × MediaBinding × Option Operation)
    (after : MediaSession × MediaBinding × Option Operation) : Service Unit := do
  (if after.1.state ≠ before.1.state then saveSession after.1 else pure ())
  (if after.2.1.state ≠ before.2.1.state then saveBinding after.2.1 else pure ())
  match after.2.2 with
  | some op => if some op.status ≠ before.2.2.map Operation.status then saveOperation op
  | none => pure ()

def checkBinding : Except DomainError Unit :=
  if binding.mediaNodeId ≠ callback.mediaNodeId then
    .error (.invalidArgument "media node id mismatch")
  else if binding.mediaNodeInstanceEpoch ≠ callback.mediaNodeInstanceEpoch then
    .error (.invalidArgument "media node instance epoch mismatch")
  else if binding.ownerEpoch ≠ callback.ownerEpoch then
    .error (.invalidArgument "owner epoch mismatch")
  else if binding.revision ≠ callback.bindingRevision then
    .error (.concurrentModification callback.bindingRevision binding.revision)
  else .ok ()

def checkSession : Except DomainError Unit :=
  if session.revision ≠ callback.sessionRevision then
    .error (.concurrentModification callback.sessionRevision session.revision)
  else .ok ()

def correlatedOperation : Option OperationId → Service (Option Operation)
  | some id => do return some (← getOperation tenant id)
  | none => pure none

def applyMediaEvent : Service MediaSession := do
  let binding ← getBinding tenant callback.mediaBindingId
  ofResult (checkBinding binding callback)
  let session ← getSession tenant callback.mediaSessionId
  ofResult (checkSession session callback)
  let operation ← correlatedOperation tenant callback.operationId
  -- late callbacks for operations that are already terminal are ignored
  if operation.any Operation.isTerminal then return session
  let after ← applyKind tenant now session binding operation callback.kind
  saveChanged (session,binding,operation) after
  return after.1

def handleMediaEvent : Service MediaSession := do
  let session ← applyMediaEvent tenant now callback
  commit
  return session

def Correlated (w : World) : Option OperationId → Option Operation → Prop
  | some id, some op => w.working.operations.find id = some op ∧ op.tenantId = tenant
  | none, none => True
  | _, _ => False

end

/-- The callback names a stored binding, session and operation of the tenant and passes
the fencing checks. -/
structure Fenced (tenant : TenantId) (w : World) (callback : MediaNodeCallback)
    (session : MediaSession) (binding : MediaBinding) (operation : Option Operation) : Prop where
  storedBinding : w.working.bindings.find callback.mediaBindingId = some binding
  bindingTenant : binding.tenantId = tenant
  node : binding.mediaNodeId = callback.mediaNodeId
  instanceEpoch : binding.mediaNodeInstanceEpoch = callback.mediaNodeInstanceEpoch
  ownerEpoch : binding.ownerEpoch = callback.ownerEpoch
  bindingRevision : binding.revision = callback.bindingRevision
  storedSession : w.working.sessions.find callback.mediaSessionId = some session
  sessionTenant : session.tenantId = tenant
  sessionRevision : session.revision = callback.sessionRevision
  correlated : Correlated tenant w callback.operationId operation

section

section

variable (fenced : Fenced tenant w callback session binding operation)
include fenced

theorem Fenced.session_id : session.mediaSessionId = callback.mediaSessionId :=
  ((Table.find_eq_some _).mp fenced.storedSession).2

theorem Fenced.binding_id : binding.mediaBindingId = callback.mediaBindingId :=
  ((Table.find_eq_some _).mp fenced.storedBinding).2

theorem Fenced.session_stored : w.HasSession session := by
  rw [World.HasSession,fenced.session_id,fenced.storedSession]

theorem Fenced.binding_stored : w.working.bindings.find binding.mediaBindingId = some binding := by
  rw [fenced.binding_id,fenced.storedBinding]

theorem Fenced.operation_stored : ∀ op ∈ operation, w.working.operations.find op.operationId = some op := by
  intro op named
  cases named
  have stored := fenced.correlated
  cases named : callback.operationId with
  | none => simp [named,Correlated] at stored
  | some k =>
    simp only [named] at stored
    rw [((Table.find_eq_some _).mp stored.1).2]
    exact stored.1

end

theorem run_correlatedOperation (stored : Correlated tenant w named operation) :
    (correlatedOperation tenant named).run w = .ok operation w := by
  cases named <;> cases operation
  · rfl
  · cases stored
  · cases stored
  · simp only [correlatedOperation,run_bind,getOperation_stored stored.1 stored.2,run_pure]

section

variable (fenced : Fenced tenant w callback session binding operation)
include fenced

theorem Fenced.checkBinding_ok : checkBinding binding callback = .ok () := by
  simp [checkBinding,fenced.node,fenced.instanceEpoch,fenced.ownerEpoch,fenced.bindingRevision]

theorem Fenced.checkSession_ok : checkSession session callback = .ok () := by
  simp [checkSession,fenced.sessionRevision]

/-- Past the checks a callback is applied, unless its operation has ended. -/
theorem Fenced.run : (applyMediaEvent tenant now callback).run w =
      if operation.any Operation.isTerminal then .ok session w
      else (do
        let after ← applyKind tenant now session binding operation callback.kind
        saveChanged (session,binding,operation) after
        return after.1 : Service MediaSession).run w := by
  simp [applyMediaEvent,
    getBinding_stored fenced.storedBinding fenced.bindingTenant,fenced.checkBinding_ok,
    getSession_stored fenced.storedSession fenced.sessionTenant,fenced.checkSession_ok,run_correlatedOperation fenced.correlated]

end

theorem checkBinding_inv (checked : checkBinding binding callback = .ok ()) :
    binding.mediaNodeId = callback.mediaNodeId ∧ binding.mediaNodeInstanceEpoch = callback.mediaNodeInstanceEpoch ∧
      binding.ownerEpoch = callback.ownerEpoch ∧ binding.revision = callback.bindingRevision := by
  unfold checkBinding at checked
  split_ifs at checked
  exact ⟨by_contra ‹_›,by_contra ‹_›,by_contra ‹_›,by_contra ‹_›⟩

theorem checkSession_inv (checked : checkSession session callback = .ok ()) :
    session.revision = callback.sessionRevision := by
  unfold checkSession at checked
  split_ifs at checked
  exact by_contra ‹_›

theorem correlatedOperation_ok (ran : (correlatedOperation tenant named).run w = .ok operation w') :
    w' = w ∧ Correlated tenant w named operation := by
  cases named with
  | none =>
    cases ran
    exact ⟨rfl,trivial⟩
  | some k =>
    obtain ⟨op,w₁,got,done⟩ := bind_ok ran
    obtain ⟨rfl,stored,tenant⟩ := getOperation_ok got
    cases done
    exact ⟨rfl,stored,tenant⟩

theorem applyMediaEvent_fenced (ran : (applyMediaEvent tenant now callback).run w = .ok returned w') :
    ∃ session binding operation, Fenced tenant w callback session binding operation := by
  obtain ⟨binding,w₁,gotBinding,ran₁⟩ := bind_ok ran
  obtain ⟨same₁,storedBinding,bindingTenant⟩ := getBinding_ok gotBinding
  obtain ⟨_,w₂,checkedBinding,ran₂⟩ := bind_ok ran₁
  obtain ⟨same₂,check⟩ := ofResult_ok checkedBinding
  obtain ⟨node,instanceEpoch,ownerEpoch,bindingRevision⟩ := checkBinding_inv check
  subst same₁ same₂
  obtain ⟨session,w₃,gotSession,ran₃⟩ := bind_ok ran₂
  obtain ⟨same₃,storedSession,sessionTenant⟩ := getSession_ok gotSession
  obtain ⟨_,w₄,checkedSession,ran₄⟩ := bind_ok ran₃
  obtain ⟨same₄,check⟩ := ofResult_ok checkedSession
  subst same₃ same₄
  obtain ⟨operation,w₅,got,-⟩ := bind_ok ran₄
  obtain ⟨-,correlated⟩ := correlatedOperation_ok got
  exact ⟨session,binding,operation,storedBinding,bindingTenant,node,instanceEpoch,ownerEpoch,
    bindingRevision,storedSession,sessionTenant,checkSession_inv check,correlated⟩

theorem saveChanged_ok (saved : (saveChanged before after).run w = .ok u w') : (after.1.state ≠ before.1.state → ∀ old,
      w.working.sessions.find after.1.mediaSessionId = some old → old.revision + 1 = after.1.revision) ∧
    (after.2.1.state ≠ before.2.1.state → ∀ old, w.working.bindings.find after.2.1.mediaBindingId = some old →
        old.revision + 1 = after.2.1.revision) ∧
    (after.2.1.state = before.2.1.state → w'.working.bindings = w.working.bindings) := by
  obtain ⟨_,w₁,first,rest⟩ := bind_ok saved
  obtain ⟨_,w₂,second,third⟩ := bind_ok rest
  have session_saved : w₁.working.bindings = w.working.bindings ∧ (after.1.state ≠ before.1.state → ∀ old,
        w.working.sessions.find after.1.mediaSessionId = some old → old.revision + 1 = after.1.revision) := by
    split at first
    · obtain ⟨rfl,next⟩ := saveIn_ok first
      exact ⟨rfl,fun _ => next⟩
    · cases first
      exact ⟨rfl,fun changed => absurd changed ‹_›⟩
  have operation_saved : w'.working.bindings = w₂.working.bindings := by
    split at third
    · split at third
      · obtain ⟨rfl,-⟩ := saveIn_ok third
        rfl
      · cases third
        rfl
    · cases third
      rfl
  refine ⟨session_saved.2,?_,?_⟩
  · intro changed
    rw [if_pos changed] at second
    rw [← session_saved.1]
    exact (saveIn_ok second).2
  intro same
  rw [if_neg (not_not.mpr same)] at second
  cases second
  exact operation_saved.trans session_saved.1

theorem run_completeOperation_running (tenant : TenantId) (now : UtcTimestamp) (w : World)
    (running : ∀ op ∈ operation, op.status = .running ∧ result.validate = .ok ()) :
    ∃ w', (completeOperation tenant now operation result).run w =
        .ok (operation.map fun op => op.completed result now) w' ∧ SameTables w w' := by
  cases operation with
  | none => exact ⟨w,rfl,.refl w⟩
  | some op =>
    obtain ⟨running,valid⟩ := running op rfl
    refine ⟨w.emit (operationEvent tenant (op.completed result now)
      ((op.completed result now).stateChangedEvent .running)),?_,(SameTables.refl w).emit _⟩
    simp only [completeOperation,Operation.isTerminal,running,OperationStatus.isTerminal,
      Bool.false_eq_true,if_false,run_bind,op.complete_running result now running valid,run_record_ok,
      run_pure,Option.map_some]

theorem run_completeOperation_refused (live : op.isTerminal = false)
    (refused : ¬ (op.status = .running ∧ result.validate = .ok ())) :
    ∃ e, (completeOperation tenant now (some op) result).run w = .error e w := by
  cases completed : op.complete result now with
  | ok pair =>
    obtain ⟨running,valid,-⟩ := Operation.complete_inv completed
    exact absurd ⟨running,valid⟩ refused
  | error e =>
    refine ⟨e,?_⟩
    simp only [completeOperation,live,Bool.false_eq_true,if_false,run_bind,completed,run_record_error]

end

/-! The handlers write the open transaction only. -/

theorem record_committed : Keeps World.committed (record event result) :=
  by cases result <;> exact fun _ => rfl

theorem saveSession_committed : Keeps World.committed (saveSession s) :=
  saveIn_keeps _ fun _ => rfl

theorem completeOperation_committed (tenant : TenantId) (now : UtcTimestamp)
    (operation : Option Operation) (result : OperationResult) :
    Keeps World.committed (completeOperation tenant now operation result) := by
  cases operation with
  | none => exact .pure _ _
  | some op => exact .ite (.pure _ _) (record_committed.bind fun _ => .pure _ _)

theorem applyKind_committed :
    Keeps World.committed (applyKind tenant now session binding operation kind) := by
  have complete (result : OperationResult) := completeOperation_committed tenant now operation result
  cases kind with
  | started =>
    have activated (s : MediaSession) : Keeps World.committed (if s.state = .inviting then
        record (sessionEvent tenant) (s.active now) else pure s) := .ite record_committed (.pure _ _)
    have start : Keeps World.committed (startSession tenant now session) :=
      .ite (record_committed.bind fun s => saveSession_committed.bind fun _ => activated s)
        (activated session)
    have activate : Keeps World.committed (activateBinding tenant now binding) :=
      .ite record_committed (.pure _ _)
    exact start.bind fun _ => activate.bind fun _ => (complete _).bind fun _ => .pure _ _
  | stopped reason =>
    have stopped (s : MediaSession) : Keeps World.committed (if s.isTerminal then pure s else
        record (sessionEvent tenant) (s.stopped now)) := .ite (.pure _ _) record_committed
    have released (b : MediaBinding) : Keeps World.committed (if b.state = .releasing then
        record (bindingEvent tenant) (b.released now) else pure b) := .ite record_committed (.pure _ _)
    have stop : Keeps World.committed (stopSession tenant now session) :=
      .ite (record_committed.bind stopped) (stopped session)
    have release : Keeps World.committed (releaseBinding tenant now binding) :=
      .ite (record_committed.bind released) (released binding)
    exact stop.bind fun _ => release.bind fun _ => (complete _).bind fun _ => .pure _ _
  | failed error =>
    have failS : Keeps World.committed (failSession tenant now error session) :=
      .ite (.pure _ _) record_committed
    have failB : Keeps World.committed (failBinding tenant now error binding) :=
      .ite (.pure _ _) record_committed
    exact failS.bind fun _ => failB.bind fun _ => (complete _).bind fun _ => .pure _ _

theorem saveChanged_committed : Keeps World.committed (saveChanged before after) := by
  refine (Keeps.ite saveSession_committed (.pure _ _)).bind fun _ =>
    (Keeps.ite (saveIn_keeps _ fun _ => rfl) (.pure _ _)).bind fun _ => ?_
  split
  · exact .ite (saveIn_keeps _ fun _ => rfl) (.pure _ _)
  · exact .pure _ _

theorem applyMediaEvent_committed : Keeps World.committed (applyMediaEvent tenant now callback) := by
  have correlated : Reads (correlatedOperation tenant callback.operationId) := by
    cases callback.operationId with
    | none => exact .pure _ _
    | some k => exact reads_getOperation.bind fun _ => .pure _ _
  exact (Keeps.of_reads reads_getBinding).bind fun _ => (Keeps.of_reads reads_ofResult).bind fun _ =>
    (Keeps.of_reads reads_getSession).bind fun _ => (Keeps.of_reads reads_ofResult).bind fun _ =>
    (Keeps.of_reads correlated).bind fun _ => .ite (.pure _ _)
      (applyKind_committed.bind fun _ => saveChanged_committed.bind fun _ => .pure _ _)

end CheetahSignaling.MediaCallback
