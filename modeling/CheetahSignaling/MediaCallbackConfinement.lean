import CheetahSignaling.MediaCallbackEffect

/-! Which sessions and operations a media node can change. The event consumer checks a
callback against the connected node, the binding and the session, and hands it to
`apply_media_event` in the same unit of work. Neither side compares the binding's session
with the callback's, nor the operation with either. A delivery that was recorded before,
the cursor and the processed-message record are not represented. -/
namespace CheetahSignaling.MediaCallback

open Service

structure MediaNode where
  nodeId : NodeId
  instanceEpoch : Nat

def checkNode (node : MediaNode) (callback : MediaNodeCallback) : Except DomainError Unit :=
  if callback.mediaNodeId ≠ node.nodeId then .error (.invalidArgument "media node id mismatch")
  else if callback.mediaNodeInstanceEpoch ≠ node.instanceEpoch then
    .error (.invalidArgument "media node instance epoch mismatch")
  else .ok ()

/-- The consumer's checks of the binding differ from the handler's in two texts. -/
def checkOwnBinding (binding : MediaBinding) (callback : MediaNodeCallback) : Except DomainError Unit :=
  if binding.mediaNodeId ≠ callback.mediaNodeId then
    .error (.invalidArgument "media binding node mismatch")
  else if binding.mediaNodeInstanceEpoch ≠ callback.mediaNodeInstanceEpoch then
    .error (.invalidArgument "media binding instance epoch mismatch")
  else checkBinding binding callback

def validateCallback (tenant : TenantId) (callback : MediaNodeCallback) (node : MediaNode) : Service Unit := do
  ofResult (checkNode node callback)
  let binding ← getBinding tenant callback.mediaBindingId
  ofResult (checkOwnBinding binding callback)
  let session ← getSession tenant callback.mediaSessionId
  ofResult (checkSession session callback)

def processEvent (tenant : TenantId) (now : UtcTimestamp) (node : MediaNode)
    (callback : MediaNodeCallback) : Service Unit := do
  -- an event of an old node instance is only logged
  if callback.mediaNodeId ≠ node.nodeId ∨ callback.mediaNodeInstanceEpoch ≠ node.instanceEpoch then
    return ()
  match ← attempt (validateCallback tenant callback node) with
  | .error _ => commit
  | .ok () =>
    match ← attempt (applyMediaEvent tenant now callback) with
    | .ok _ => commit
    | .error e => do
      rollback
      throw e

/-- A session that changed is the session of the callback's binding, and an operation that
changed is one of that session's device. -/
structure Confined (callback : MediaNodeCallback) (before after : Store) : Prop where
  sessions : ∀ k, after.sessions.find k ≠ before.sessions.find k →
    ∃ b, before.bindings.find callback.mediaBindingId = some b ∧ b.mediaSessionId = k
  operations : ∀ k, after.operations.find k ≠ before.operations.find k →
    ∃ b s op, before.bindings.find callback.mediaBindingId = some b ∧
      before.sessions.find b.mediaSessionId = some s ∧ before.operations.find k = some op ∧
      op.deviceId = s.deviceId

/-- What neither check looks at: the callback moves its session only if its binding belongs
to it, and names only operations of the device of the binding's session. -/
structure Belongs (w : World) (callback : MediaNodeCallback) (session : MediaSession)
    (binding : MediaBinding) (operation : Option Operation) : Prop where
  session : sessionAhead callback.kind session.state ≠ 0 → binding.mediaSessionId = callback.mediaSessionId
  operation : ∀ op ∈ operation, ∃ s, w.working.sessions.find binding.mediaSessionId = some s ∧ op.deviceId = s.deviceId

def FromNode (node : MediaNode) (callback : MediaNodeCallback) : Prop :=
  callback.mediaNodeId = node.nodeId ∧ callback.mediaNodeInstanceEpoch = node.instanceEpoch

section

variable {node : MediaNode}

theorem Confined.unchanged (callback : MediaNodeCallback) (store : Store) : Confined callback store store :=
  ⟨fun _ changed => absurd rfl changed,fun _ changed => absurd rfl changed⟩

/-- Everything the consumer checks is part of the handler's own checks. -/
theorem Fenced.validated (fenced : Fenced tenant w callback session binding operation)
    (fromNode : FromNode node callback) :
    (validateCallback tenant callback node).run w = .ok () w := by
  have node_ok : checkNode node callback = .ok () := by simp [checkNode,fromNode.1,fromNode.2]
  have binding_ok : checkOwnBinding binding callback = .ok () := by
    simp [checkOwnBinding,fenced.node,fenced.instanceEpoch,fenced.checkBinding_ok]
  simp [validateCallback,node_ok,binding_ok,fenced.checkSession_ok,
    getBinding_stored fenced.storedBinding fenced.bindingTenant,
    getSession_stored fenced.storedSession fenced.sessionTenant]

theorem reads_validateCallback : Reads (validateCallback tenant callback node) :=
  reads_ofResult.bind fun _ => reads_getBinding.bind fun _ => reads_ofResult.bind fun _ =>
    reads_getSession.bind fun _ => reads_ofResult

theorem processEvent_leaves (opened : w.working = w.committed) :
    ((processEvent tenant now node callback).leaves w).committed = w.committed ∨
      FromNode node callback ∧ ∃ returned w', (applyMediaEvent tenant now callback).run w = .ok returned w' ∧
        ((processEvent tenant now node callback).leaves w).committed = w'.working := by
  by_cases foreign : callback.mediaNodeId ≠ node.nodeId ∨ callback.mediaNodeInstanceEpoch ≠ node.instanceEpoch
  · exact .inl (by simp [leaves,processEvent,foreign])
  have fromNode : FromNode node callback := by
    push Not at foreign
    exact foreign
  cases validated : (validateCallback tenant callback node).run w with
  | error e w₁ =>
    have same : w₁ = w := reads_validateCallback.error validated
    subst same
    refine .inl ?_
    simp [leaves,processEvent,foreign,run_attempt_error validated,opened]
  | ok u w₁ =>
    have same : w₁ = w := reads_validateCallback.ok validated
    subst same
    cases applied : (applyMediaEvent tenant now callback).run w₁ with
    | error e w₂ =>
      have kept := applyMediaEvent_committed.error applied
      simp [leaves,processEvent,foreign,run_attempt_ok validated,run_attempt_error applied,kept]
    | ok returned w₂ =>
      refine .inr ⟨fromNode,returned,w₂,rfl,?_⟩
      simp [leaves,processEvent,foreign,run_attempt_ok validated,run_attempt_ok applied]

theorem Fenced.processed (now : UtcTimestamp) (fenced : Fenced tenant w callback session binding operation)
    (fromNode : FromNode node callback) (accepted : Accepted session binding operation callback.kind) :
    ∃ after, Effect callback.kind now w session binding operation after ∧
      ((processEvent tenant now node callback).leaves w).committed = after.working := by
  obtain ⟨returned,after,applied,effect⟩ := fenced.applied now accepted
  have own : ¬ (callback.mediaNodeId ≠ node.nodeId ∨ callback.mediaNodeInstanceEpoch ≠ node.instanceEpoch) := by
    simp [fromNode.1,fromNode.2]
  refine ⟨after,effect,?_⟩
  simp [leaves,processEvent,own,run_attempt_ok (fenced.validated fromNode),run_attempt_ok applied]

/-- The tables show a change exactly where the callback moves something. -/
theorem Effect.confined_iff (fenced : Fenced tenant w callback session binding operation)
    (effect : Effect callback.kind now w session binding operation after) :
    Confined callback w.working after.working ↔ Belongs w callback session binding operation := by
  obtain ⟨session',saved,-,kept⟩ := effect.sessionSaved
  constructor
  · intro confined
    constructor
    · intro moves
      have changed : after.working.sessions.find session.mediaSessionId ≠
          w.working.sessions.find session.mediaSessionId := by
        rw [saved,fenced.session_stored]
        exact fun same => moves (kept.mpr (Option.some.inj same))
      obtain ⟨b,stored,belongs⟩ := confined.sessions _ changed
      rw [fenced.storedBinding] at stored
      cases stored
      rw [belongs,fenced.session_id]
    intro op named
    have changed : after.working.operations.find op.operationId ≠ w.working.operations.find op.operationId := by
      rw [effect.operationSaved op named,fenced.operation_stored op named]
      intro same
      have revision := congrArg Operation.revision (Option.some.inj same)
      simp at revision
    obtain ⟨b,s,op',storedBinding,storedSession,storedOperation,device⟩ := confined.operations _ changed
    rw [fenced.storedBinding] at storedBinding
    rw [fenced.operation_stored op named] at storedOperation
    cases storedBinding
    cases storedOperation
    exact ⟨s,storedSession,device⟩
  intro belongs
  constructor
  · intro k changed
    by_cases other : k = session.mediaSessionId
    · refine ⟨binding,fenced.storedBinding,?_⟩
      rw [other,fenced.session_id]
      apply belongs.session
      intro still
      rw [other,saved,kept.mp still,fenced.session_stored] at changed
      exact changed rfl
    · exact absurd (effect.otherSessions k other) changed
  intro k changed
  by_cases named : ∃ op ∈ operation, k = op.operationId
  · obtain ⟨op,named,rfl⟩ := named
    obtain ⟨s,stored,device⟩ := belongs.operation op named
    exact ⟨binding,s,op,fenced.storedBinding,stored,fenced.operation_stored op named,device⟩
  · push Not at named
    exact absurd (effect.otherOperations k named) changed

/-- A delivery changes only the session of the callback's binding and operations of that
session's device exactly when the callback, if it is going to be applied, belongs there. -/
theorem callback_confined_iff (store : Store) (reserved : MediaBindingId → Bool) (tenant : TenantId)
    (now : UtcTimestamp) (node : MediaNode) (callback : MediaNodeCallback) :
    Confined callback store
        ((processEvent tenant now node callback).leaves (.opened store reserved)).committed ↔
      ∀ session binding operation, FromNode node callback →
        Fenced tenant (.opened store reserved) callback session binding operation →
        Accepted session binding operation callback.kind →
        Belongs (.opened store reserved) callback session binding operation := by
  constructor
  · intro confined session binding operation fromNode fenced accepted
    obtain ⟨after,effect,committed⟩ := fenced.processed now fromNode accepted
    rw [committed] at confined
    exact (effect.confined_iff fenced).mp confined
  intro belongs
  rcases processEvent_leaves (w := .opened store reserved) rfl with
    unchanged | ⟨fromNode,returned,w',applied,committed⟩
  · rw [unchanged]
    exact .unchanged callback store
  rw [committed]
  obtain ⟨session,binding,operation,fenced⟩ := applyMediaEvent_fenced applied
  cases live : operation.any Operation.isTerminal with
  | true =>
    rw [fenced.run,live,if_pos rfl] at applied
    cases applied
    exact .unchanged callback store
  | false =>
    have accepted := fenced.accepted live applied
    obtain ⟨_,_,ran,effect⟩ := fenced.applied now accepted
    rw [ran] at applied
    cases applied
    exact (effect.confined_iff fenced).mpr (belongs session binding operation fromNode fenced accepted)

end

def neighbours : Store := { (Sample.world .active .active .running).committed with
    sessions := (Table.empty.put (Sample.session .active)).put
      { Sample.session .active with mediaSessionId := 11, deviceId := 6 } }

/-- The node of binding 30 reports a failure of session 11. -/
def strayFailed : MediaNodeCallback := ⟨5,1,11,30,none,7,1,2,.failed ⟨"lost","stream lost"⟩⟩

theorem strayFailed_not_confined : ¬ Confined strayFailed neighbours
      ((processEvent 1 5 ⟨5,1⟩ strayFailed).leaves (.opened neighbours fun _ => false)).committed := by
  intro confined
  obtain ⟨b,stored,belongs⟩ := confined.sessions 11 (by decide)
  cases stored
  exact absurd belongs (by decide)

end CheetahSignaling.MediaCallback
