import CheetahSignaling.MediaCallbackEffect

/-! When a `Stopped` callback completes. The handler may move the session and the binding
by two transitions each, but every aggregate is saved once, and a save accepts exactly one
revision more than the stored one. A `Reserved` binding is not moved at all. -/
namespace CheetahSignaling.MediaCallback

open Service

/-- The stop is applied to session and binding and ends the operation. -/
def StopCompletes (callback : MediaNodeCallback) (operation : Option Operation)
    (outcome : EStateM.Result DomainError World MediaSession) : Prop :=
  ∃ returned after, outcome = .ok returned after ∧
    (∃ s, after.committed.sessions.find callback.mediaSessionId = some s ∧ s.state = .stopped) ∧
    (∃ b, after.committed.bindings.find callback.mediaBindingId = some b ∧ b.state = .released) ∧
    ∀ op ∈ operation, op.isTerminal = false →
      ∃ op', after.committed.operations.find op.operationId = some op' ∧ op'.isTerminal = true

/-- Each row is one move from its end. -/
def Stoppable (session : MediaSession) (binding : MediaBinding) (operation : Option Operation)
    (reason : String) : Prop :=
  session.state ≠ .active ∧ binding.state = .releasing ∧
    ∀ op ∈ operation, op.status = .running ∧ (reason = "" ∨ reason.utf8ByteSize ≤ 2048)

section

variable {tenant : TenantId} {now : UtcTimestamp} {w : World}

theorem stopResult_valid : (stopResult reason).validate = .ok () ↔ reason = "" ∨ reason.utf8ByteSize ≤ 2048 := by
  unfold stopResult
  split
  · rename_i empty
    simp [OperationResult.validate,empty]
  rename_i text
  constructor
  · intro valid
    right
    by_contra oversized
    obtain ⟨_,refused⟩ := ErrorText.validate_oversized (e := ⟨"stopped",reason⟩) "operation"
      (fun fits => oversized fits.2)
    simp [OperationResult.validate,refused] at valid
  · intro short
    have code : ("stopped" : String).utf8ByteSize ≤ maxErrorCodeBytes := by decide
    exact ErrorText.validate_fits "operation" ⟨code,short.resolve_left text⟩

theorem accepted_stopped_iff (liveBinding : binding.isTerminal = false) :
    Accepted session binding operation (.stopped reason) ↔
      session.state ≠ .active ∧ (binding.state = .releasing ∨ binding.state = .reserved) ∧
        ∀ op ∈ operation, op.status = .running ∧ (reason = "" ∨ reason.utf8ByteSize ≤ 2048) := by
  have sessionOnce : sessionAhead (.stopped reason) session.state ≤ 1 ↔ session.state ≠ .active := by
    cases session.state <;> simp [sessionAhead,MediaSession.terminal]
  have bindingOnce : bindingAhead (.stopped reason) binding.state ≤ 1 ↔
      binding.state = .releasing ∨ binding.state = .reserved := by
    revert liveBinding
    unfold MediaBinding.isTerminal
    cases binding.state <;> simp [bindingAhead,MediaBinding.terminal]
  constructor
  · intro accepted
    exact ⟨sessionOnce.mp accepted.sessionOnce,bindingOnce.mp accepted.bindingOnce,
      fun op named => ⟨(accepted.running op named).1,stopResult_valid.mp (accepted.running op named).2⟩⟩
  · rintro ⟨session,binding,running⟩
    exact ⟨trivial,sessionOnce.mpr session,bindingOnce.mpr binding,
      fun op named => ⟨(running op named).1,stopResult_valid.mpr (running op named).2⟩⟩

section

variable (fenced : Fenced tenant w callback session binding operation) (kind : callback.kind = .stopped reason)
  (liveSession : session.isTerminal = false) (liveBinding : binding.isTerminal = false)
include fenced kind liveSession liveBinding

theorem Stoppable.completes (stoppable : Stoppable session binding operation reason) :
    StopCompletes callback operation ((handleMediaEvent tenant now callback).run w) := by
  obtain ⟨notActive,releasing,running⟩ := stoppable
  have accepted : Accepted session binding operation callback.kind := by
    rw [kind]
    exact (accepted_stopped_iff liveBinding).mpr ⟨notActive,.inl releasing,running⟩
  obtain ⟨returned,after,ran,effect⟩ := fenced.applied now accepted
  obtain ⟨session',storedSession,sessionState,-⟩ := effect.sessionSaved
  obtain ⟨binding',storedBinding,bindingState⟩ := effect.bindingSaved
  rw [fenced.session_id] at storedSession
  rw [fenced.binding_id] at storedBinding
  refine ⟨returned,after.commit,?_,⟨session',storedSession,?_⟩,⟨binding',storedBinding,?_⟩,?_⟩
  · simp only [handleMediaEvent,EStateM.run_bind,ran,run_commit,EStateM.run_pure]
  · rw [sessionState,kind]
    exact if_neg (by simpa [MediaSession.isTerminal] using liveSession)
  · rw [bindingState,kind,releasing]
    rfl
  · intro op named _
    exact ⟨_,effect.operationSaved op named,op.completed_terminal⟩

theorem StopCompletes.stoppable (completes : StopCompletes callback operation ((handleMediaEvent tenant now callback).run w)) :
    Stoppable session binding operation reason := by
  obtain ⟨returned,after,handled,⟨s,sessionStored,isStopped⟩,⟨b,bindingStored,isReleased⟩,-⟩ := completes
  obtain ⟨_,w₁,ran,committed⟩ := bind_ok handled
  cases committed
  cases live : operation.any Operation.isTerminal with
  | true =>
    -- the callback is discarded and the session stays as it is
    rw [fenced.run,live,if_pos rfl] at ran
    cases ran
    rw [World.commit_committed,fenced.storedSession] at sessionStored
    cases sessionStored
    simp [MediaSession.isTerminal,isStopped,MediaSession.terminal] at liveSession
  | false =>
    have accepted := fenced.accepted live ran
    obtain ⟨_,_,ran',effect⟩ := fenced.applied now accepted
    rw [ran'] at ran
    cases ran
    rw [kind] at accepted
    obtain ⟨notActive,binding_state,running⟩ := (accepted_stopped_iff liveBinding).mp accepted
    refine ⟨notActive,binding_state.resolve_right ?_,running⟩
    -- a reserved binding is not moved, so it is not found released
    intro reserved
    obtain ⟨binding',stored,state⟩ := effect.bindingSaved
    rw [fenced.binding_id,← World.commit_committed,bindingStored] at stored
    cases stored
    rw [isReleased,kind,reserved] at state
    cases state

end

/-- A `Stopped` callback that passes the checks stops a live session and releases its live
binding exactly when each of them, and the operation, is one transition away from its end. -/
theorem stopped_callback_completes_iff {callback : MediaNodeCallback}
    (fenced : Fenced tenant w callback session binding operation)
    (kind : callback.kind = .stopped reason) (liveSession : session.isTerminal = false)
    (liveBinding : binding.isTerminal = false) :
    StopCompletes callback operation ((handleMediaEvent tenant now callback).run w) ↔
      Stoppable session binding operation reason :=
  ⟨StopCompletes.stoppable fenced kind liveSession liveBinding,
    Stoppable.completes fenced kind liveSession liveBinding⟩

end

def sampleStopped : MediaNodeCallback := ⟨5,1,10,30,some 20,7,1,2,.stopped ""⟩

theorem sampleStopped_fenced : Fenced 1 (Sample.world s b status) sampleStopped (Sample.session s) (Sample.binding b)
      (some (Sample.operation status)) :=
  ⟨rfl,rfl,rfl,rfl,rfl,rfl,rfl,rfl,rfl,rfl,rfl⟩

theorem stopping_session_completes : StopCompletes sampleStopped (some (Sample.operation .running))
      ((handleMediaEvent 1 5 sampleStopped).run (Sample.world .stopping .releasing .running)) :=
  (stopped_callback_completes_iff sampleStopped_fenced rfl rfl rfl).mpr
    ⟨by decide,rfl,fun _ named => by cases named; exact ⟨rfl,.inl rfl⟩⟩

/-- An active session with an active binding: the session has moved by two revisions when
it is saved. -/
theorem active_session_refused :
    Fenced 1 (Sample.world .active .active .running) sampleStopped (Sample.session .active)
      (Sample.binding .active) (some (Sample.operation .running)) ∧
    (Sample.session .active).isTerminal = false ∧ (Sample.binding .active).isTerminal = false ∧
    ∃ after, (handleMediaEvent 1 5 sampleStopped).run (Sample.world .active .active .running) =
      .error (.concurrentModification 3 2) after :=
  ⟨sampleStopped_fenced,rfl,rfl,_,rfl⟩

end CheetahSignaling.MediaCallback
