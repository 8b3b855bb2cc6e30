import CheetahSignaling.MediaStart
import CheetahSignaling.MediaCallbackEffect

/-! The two messages that follow a start command: the node's answer, handled by
`dispatch_media_command`, and its `Started` callback, handled by `apply_media_event`. Each
is applied in a transaction of its own, in either order. -/
namespace CheetahSignaling.MediaStart

open Service MediaCallback EStateM Table

section

variable (w : World) (command : MediaNodeCommand) (session : MediaSession) (binding : MediaBinding) (operation : Operation)

/-- The rows the command names. -/
structure Stored : Prop where
  sessionRow : w.working.sessions.find command.mediaSessionId = some session
  sessionTenant : session.tenantId = command.tenantId
  bindingRow : w.working.bindings.find command.mediaBindingId = some binding
  bindingTenant : binding.tenantId = command.tenantId
  operationRow : w.working.operations.find command.operationId = some operation
  operationTenant : operation.tenantId = command.tenantId

/-- The rows when the command is sent. -/
structure Sent : Prop extends Stored w command session binding operation where
  allocating : session.state = .allocating
  reserved : binding.state = .reserved
  running : operation.status = .running

/-- A `Started` callback of the command, with or without its operation, that passes the
fencing checks when it is applied. -/
structure StartedCallback (callback : MediaNodeCallback) (session : MediaSession) (binding : MediaBinding)
    (operation : Option Operation) : Prop where
  fenced : Fenced command.tenantId w callback session binding operation
  kind : callback.kind = .started
  ofSession : callback.mediaSessionId = command.mediaSessionId
  ofBinding : callback.mediaBindingId = command.mediaBindingId
  ofOperation : callback.operationId = none ∨ callback.operationId = some command.operationId

end

def Reported (result : MediaNodeCommandResult) (callback : MediaNodeCallback) : Prop :=
  result = .completed ∨ callback.operationId.isSome

/-- The state both orders should end in. -/
structure Started (store : Store) (command : MediaNodeCommand) (result : MediaNodeCommandResult)
    (callback : MediaNodeCallback) : Prop where
  session : ∃ s, store.sessions.find command.mediaSessionId = some s ∧ s.state = .active
  binding : ∃ b, store.bindings.find command.mediaBindingId = some b ∧ b.state = .active
  operation : Reported result callback →
    ∃ op, store.operations.find command.operationId = some op ∧ op.status = .succeeded

inductive Order where
  | answerFirst | callbackFirst

/-- Neither message is refused, and the start is complete after both. -/
def Completes (w : World) (command : MediaNodeCommand) (result : MediaNodeCommandResult)
    (answered calledBack : UtcTimestamp) : Order → Prop
  | .answerFirst => ∃ s w₁, (handleStartResult noFaults answered command result).run w = .ok s w₁ ∧
      ∀ callback session binding operation, StartedCallback w₁ command callback session binding operation →
        ∃ s' w₂, (handleMediaEvent command.tenantId calledBack callback).run w₁ = .ok s' w₂ ∧
          Started w₂.committed command result callback
  | .callbackFirst => ∀ callback session binding operation,
      StartedCallback w command callback session binding operation →
        ∃ s w₁, (handleMediaEvent command.tenantId calledBack callback).run w = .ok s w₁ ∧
          ∃ s' w₂, (handleStartResult noFaults answered command result).run w₁ = .ok s' w₂ ∧
            Started w₂.committed command result callback

section

variable {w : World}
  {operation : Operation} {now : UtcTimestamp}

theorem Stored.run_handle (stored : Stored w command session binding operation) :
    (handleStartResult noFaults now command result).run w =
      (applyStartResult noFaults command.tenantId now session binding operation result).run w := by
  simp [handleStartResult,noFaults,
    getOperation_stored stored.operationRow stored.operationTenant,
    getSession_stored stored.sessionRow stored.sessionTenant,
    getBinding_stored stored.bindingRow stored.bindingTenant]

theorem StartedCallback.rows (started : StartedCallback w command callback session' binding' operation')
    (stored : Stored w command session binding operation) :
    session' = session ∧ binding' = binding ∧ ∀ op ∈ operation', op = operation := by
  have sessions := started.fenced.storedSession
  have bindings := started.fenced.storedBinding
  have correlated := started.fenced.correlated
  rw [started.ofSession,stored.sessionRow] at sessions
  rw [started.ofBinding,stored.bindingRow] at bindings
  refine ⟨(Option.some.inj sessions).symm,(Option.some.inj bindings).symm,?_⟩
  intro op named
  cases named
  rcases started.ofOperation with none | some
  · simp [none,Correlated] at correlated
  · simp only [some,Correlated,stored.operationRow,Option.some.injEq] at correlated
    exact correlated.1.symm

theorem StartedCallback.operation_isSome
    (started : StartedCallback w command callback session' binding' operation') :
    callback.operationId.isSome = operation'.isSome := by
  have correlated := started.fenced.correlated
  cases named : callback.operationId <;> cases operation' <;> simp [named,Correlated] at correlated ⊢

section

variable (sent : Sent w command session binding operation)
include sent

theorem Sent.invite : session.inviting now = .ok (session.moved now .inviting none,
      (session.moved now .inviting none).stateChangedEvent session.state) :=
  session.transitionTo_ok (by rw [sent.allocating]; rfl) (by rw [sent.allocating]; rfl) (by simp)

theorem Sent.activate : binding.activate now = .ok (binding.moved now .active none,
      (binding.moved now .active none).stateChangedEvent binding.state) :=
  binding.transitionTo_ok (by rw [sent.reserved]; rfl) (by rw [sent.reserved]; rfl) (by simp)

theorem Sent.accepted (now : UtcTimestamp) :
    ∃ s b w', (acceptStart noFaults command.tenantId now session binding).run w = .ok s w' ∧
      Stored w' command s b operation ∧ s.state = .inviting ∧ b.state = .active := by
  have sessionId := ((find_eq_some _).mp sent.sessionRow).2
  have bindingId := ((find_eq_some _).mp sent.bindingRow).2
  have saveS : (saveSession (session.moved now .inviting none)).run w =
      .ok () (w.putSession (session.moved now .inviting none)) :=
    saveSession_next (r := session) (by rw [MediaSession.moved_id,sessionId,sent.sessionRow]) rfl
  have saveB : (saveBinding (binding.moved now .active none)).run
      (w.putSession (session.moved now .inviting none)) =
      .ok () ((w.putSession (session.moved now .inviting none)).putBinding (binding.moved now .active none)) :=
    saveBinding_next (r := binding) (by
      rw [World.putSession_bindings,MediaBinding.moved_id,bindingId,sent.bindingRow]) rfl
  simp only [acceptStart,noFaults,call_none,run_bind,sent.invite,sent.activate,
    run_ofResult_ok,saveS,saveB]
  refine ⟨_,binding.moved now .active none,_,rfl,⟨?_,sent.sessionTenant,?_,sent.bindingTenant,
    sent.operationRow,sent.operationTenant⟩,rfl,rfl⟩
  · rw [← sessionId]
    exact find_put_same ..
  · rw [← bindingId]
    exact find_put_same ..

theorem Sent.completed (now : UtcTimestamp) :
    ∃ s b op w', (completeStart noFaults command.tenantId now session binding operation).run w = .ok s w' ∧
      Stored w' command s b op ∧ s.state = .active ∧ b.state = .active ∧ op.status = .succeeded := by
  have sessionId := ((find_eq_some _).mp sent.sessionRow).2
  have bindingId := ((find_eq_some _).mp sent.bindingRow).2
  have operationId := ((find_eq_some _).mp sent.operationRow).2
  let invited := session.moved now .inviting none
  let w₁ := w.putSession invited
  let w₂ := w₁.putSession (invited.moved now .active none)
  let w₃ := w₂.putBinding (binding.moved now .active none)
  have activate : invited.active now = .ok (invited.moved now .active none,
      (invited.moved now .active none).stateChangedEvent invited.state) :=
    invited.transitionTo_ok rfl rfl (by simp)
  have saveInvited : (saveSession invited).run w = .ok () w₁ :=
    saveSession_next (r := session) (by rw [MediaSession.moved_id,sessionId,sent.sessionRow]) rfl
  have saveActive : (saveSession (invited.moved now .active none)).run w₁ = .ok () w₂ :=
    saveSession_next (find_put_same ..) rfl
  have saveB : (saveBinding (binding.moved now .active none)).run w₂ = .ok () w₃ := saveBinding_next (r := binding) (by
      rw [World.putSession_bindings,World.putSession_bindings,MediaBinding.moved_id,bindingId,sent.bindingRow]) rfl
  have saveO : (saveOperation (operation.completed .success now)).run w₃ =
      .ok () (w₃.putOperation (operation.completed .success now)) :=
    saveOperation_next (r := operation) (by
      rw [World.putBinding_operations,World.putSession_operations,World.putSession_operations,
        Operation.completed_id,operationId,sent.operationRow]) rfl
  simp only [completeStart,noFaults,call_none,run_bind,sent.invite,activate,
    sent.activate,operation.complete_running .success now sent.running rfl,
    run_ofResult_ok,saveInvited,saveActive,saveB,saveO,invited]
  refine ⟨_,binding.moved now .active none,operation.completed .success now,_,rfl,
    ⟨?_,sent.sessionTenant,?_,sent.bindingTenant,?_,sent.operationTenant⟩,rfl,rfl,rfl⟩
  · rw [← sessionId]
    exact find_put_same ..
  · rw [← bindingId]
    exact find_put_same ..
  · rw [← operationId]
    exact find_put_same ..

end

theorem run_handleMediaEvent (ran : (applyMediaEvent tenant now callback).run w = .ok s w') :
    (handleMediaEvent tenant now callback).run w = .ok s w'.commit := by
  simp only [handleMediaEvent,run_bind,ran,run_commit,run_pure]

theorem handleMediaEvent_committed (ran : (handleMediaEvent tenant now callback).run w = .ok s w') :
    w'.committed = w'.working := by
  obtain ⟨_,_,-,rest⟩ := bind_ok ran
  cases rest
  rfl

/-- A callback that finds its operation done changes nothing. -/
theorem StartedCallback.ignored (started : StartedCallback w command callback session' binding' (some operation'))
    (stored : Stored w command session binding operation) (active : session.state = .active)
    (bindingActive : binding.state = .active) (done : operation.status = .succeeded) :
    ∃ s w', (handleMediaEvent command.tenantId now callback).run w = .ok s w' ∧
      Started w'.committed command result callback := by
  obtain ⟨-,-,same⟩ := started.rows stored
  have terminal : (some operation').any Operation.isTerminal = true := by
    simp [same operation' rfl,Operation.isTerminal,done,OperationStatus.isTerminal]
  have ran : (applyMediaEvent command.tenantId now callback).run w = _ := started.fenced.run
  rw [terminal,if_pos rfl] at ran
  exact ⟨_,_,run_handleMediaEvent ran,⟨session,stored.sessionRow,active⟩,
    ⟨binding,stored.bindingRow,bindingActive⟩,fun _ => ⟨operation,stored.operationRow,done⟩⟩

theorem StartedCallback.applied
    (started : StartedCallback w command callback session' binding' operation')
    (stored : Stored w command session binding operation) (now : UtcTimestamp)
    (active : sessionTarget .started session.state = .active)
    (bindingActive : bindingTarget .started binding.state = .active)
    (running : ∀ op ∈ operation', op.status = .running) (result : MediaNodeCommandResult)
    (done : result = .completed → operation.status = .succeeded) :
    ∃ s w', (handleMediaEvent command.tenantId now callback).run w = .ok s w' ∧
      Started w'.committed command result callback := by
  obtain ⟨rfl,rfl,same⟩ := started.rows stored
  have accepted : Accepted session' binding' operation' callback.kind := by
    rw [started.kind]
    refine ⟨trivial,?_,?_,fun op named => ⟨running op named,rfl⟩⟩
    · cases session'.state <;> decide
    · cases binding'.state <;> decide
  obtain ⟨s,w',ran,effect⟩ := started.fenced.applied now accepted
  obtain ⟨s',sessionRow,sessionState,-⟩ := effect.sessionSaved
  obtain ⟨b',bindingRow,bindingState⟩ := effect.bindingSaved
  rw [started.kind] at sessionState bindingState
  rw [started.fenced.session_id,started.ofSession] at sessionRow
  rw [started.fenced.binding_id,started.ofBinding] at bindingRow
  refine ⟨_,_,run_handleMediaEvent ran,⟨s',sessionRow,sessionState.trans active⟩,
    ⟨b',bindingRow,bindingState.trans bindingActive⟩,fun reported => ?_⟩
  cases operation' with
  | some op =>
    have saved := effect.operationSaved op rfl
    rw [same op rfl,((find_eq_some _).mp stored.operationRow).2,started.kind] at saved
    exact ⟨_,saved,rfl⟩
  | none =>
    have kept := effect.otherOperations command.operationId (by simp)
    rw [stored.operationRow] at kept
    have completed : result = .completed := reported.resolve_right (by simp [started.operation_isSome])
    exact ⟨operation,kept,done completed⟩

theorem Sent.answerFirst (sent : Sent w command session binding operation)
    (started : ∀ error, result ≠ .failed error) :
    Completes w command result answered calledBack .answerFirst := by
  have acceptedFirst (leftRunning : result ≠ .completed) (ran : applyStartResult noFaults command.tenantId answered
      session binding operation result = acceptStart noFaults command.tenantId answered session binding) :
      Completes w command result answered calledBack .answerFirst := by
    obtain ⟨s,b,w₁,answer,stored,inviting,active⟩ := sent.accepted answered
    refine ⟨s,w₁,by rw [sent.run_handle,ran,answer],fun callback session' binding' operation' called => ?_⟩
    refine called.applied stored calledBack (by rw [inviting]; rfl) (by rw [active]; rfl) ?_ result
      (fun completed => absurd completed leftRunning)
    intro op named
    rw [(called.rows stored).2.2 op named,sent.running]
  cases result with
  | completed =>
    obtain ⟨s,b,op,w₁,answer,stored,active,bindingActive,done⟩ := sent.completed answered
    refine ⟨s,w₁,sent.run_handle.trans answer,
      fun callback session' binding' operation' called => ?_⟩
    cases operation' with
    | some op' => exact called.ignored stored active bindingActive done
    | none =>
      exact called.applied stored calledBack (by rw [active]; rfl) (by rw [bindingActive]; rfl) (by simp)
        .completed fun _ => done
  | accepted => exact acceptedFirst (by simp) rfl
  | unknownOutcome error => exact acceptedFirst (by simp) rfl
  | failed error => exact absurd rfl (started error)

theorem handleStartResult_allocating (ran : (handleStartResult faults now command result).run w = .ok s w') :
    ∃ session, w.working.sessions.find command.mediaSessionId = some session ∧ session.state = .allocating := by
  obtain ⟨op,w₁,gettingOperation,rest₁⟩ := bind_ok ran
  obtain ⟨rfl,-⟩ := getOperation_ok (call_ok gettingOperation).2
  obtain ⟨session,w₂,gettingSession,rest₂⟩ := bind_ok rest₁
  obtain ⟨rfl,stored,-⟩ := getSession_ok (call_ok gettingSession).2
  obtain ⟨binding,w₃,gettingBinding,rest₃⟩ := bind_ok rest₂
  refine ⟨session,stored,?_⟩
  have invited (ok : ∃ changed, session.inviting now = .ok changed) : session.state = .allocating := by
    obtain ⟨⟨s',event⟩,ok⟩ := ok
    obtain ⟨-,allowed,-⟩ := MediaSession.transitionTo_inv ok
    cases state : session.state <;> simp [state,MediaSession.allowedTransition] at allowed ⊢
  cases result with
  | completed =>
    obtain ⟨changed,ok,-⟩ := bind_ofResult_ok rest₃
    exact invited ⟨changed,ok⟩
  | accepted =>
    obtain ⟨changed,ok,-⟩ := bind_ofResult_ok rest₃
    exact invited ⟨changed,ok⟩
  | unknownOutcome error =>
    obtain ⟨changed,ok,-⟩ := bind_ofResult_ok rest₃
    exact invited ⟨changed,ok⟩
  | failed error =>
    obtain ⟨_,_,-,rest⟩ := bind_ok rest₃
    obtain ⟨_,_,-,rest⟩ := bind_ok rest
    cases rest

def startedCallback (command : MediaNodeCommand) (session : MediaSession) (binding : MediaBinding) :
    MediaNodeCallback where
  mediaNodeId := binding.mediaNodeId
  mediaNodeInstanceEpoch := binding.mediaNodeInstanceEpoch
  mediaSessionId := command.mediaSessionId
  mediaBindingId := command.mediaBindingId
  operationId := some command.operationId
  ownerEpoch := binding.ownerEpoch
  bindingRevision := binding.revision
  sessionRevision := session.revision
  kind := .started

theorem Stored.startedCallback (stored : Stored w command session binding operation) :
    StartedCallback w command (startedCallback command session binding) session binding (some operation) :=
  ⟨⟨stored.bindingRow,stored.bindingTenant,rfl,rfl,rfl,rfl,stored.sessionRow,stored.sessionTenant,rfl,
    stored.operationRow,stored.operationTenant⟩,rfl,rfl,rfl,.inr rfl⟩

theorem Sent.callbackFirst (sent : Sent w command session binding operation) :
    ¬ Completes w command result answered calledBack .callbackFirst := by
  intro completes
  have called := sent.toStored.startedCallback
  obtain ⟨s,w₁,ran,s',w₂,answer,-⟩ := completes _ _ _ _ called
  obtain ⟨_,_,again,started⟩ := called.applied sent.toStored calledBack (by rw [sent.allocating]; rfl)
    (by rw [sent.reserved]; rfl) (by simp [sent.running]) .accepted (by simp)
  rw [ran] at again
  cases again
  obtain ⟨active,activeRow,isActive⟩ := started.session
  obtain ⟨allocating,allocatingRow,isAllocating⟩ := handleStartResult_allocating answer
  rw [handleMediaEvent_committed ran,allocatingRow] at activeRow
  cases activeRow
  rw [isActive] at isAllocating
  cases isAllocating

theorem Persisted.sent (persisted : Persisted ids command.tenantId operation w session binding)
    (ofSession : command.mediaSessionId = ids.mediaSessionId)
    (ofBinding : command.mediaBindingId = ids.mediaBindingId)
    (ofOperation : command.operationId = operation.operationId)
    (ran : (executeMediaCommand faults node now command).run w = .ok result w') :
    Sent w' command session binding (operation.started now) := by
  obtain ⟨op,operationRow,operationTenant,-,-,operations,sessions,bindings,-⟩ := executeMediaCommand_ok ran
  rw [ofOperation,persisted.operationRow] at operationRow
  cases operationRow
  refine ⟨⟨?_,persisted.sessionTenant,?_,persisted.bindingTenant,?_,persisted.operationTenant⟩,
    persisted.allocating,persisted.reserved,rfl⟩
  · rw [sessions,ofSession,persisted.sessionRow]
  · rw [bindings,ofBinding,persisted.bindingRow]
  · rw [operations,ofOperation]
    exact find_put_same ..

/-- For every start whose command was sent and answered without a failure, answer and
`Started` callback are both applied, with the session and binding active and the operation
succeeded if one of them says so, exactly when the answer is applied first. -/
theorem start_messages_commute_iff {persistFaults : PersistCall → Option DomainError}
    {sendFaults : ExecuteCall → Option DomainError} {node : MediaNodeCommand → CommandReply} {w₁ w₂ : World}
    (persisted : (persistStartResources persistFaults context now ids scope request reservation ownerEpoch
      deadline payload purpose playback).run w = .ok operation w₁)
    (sent : (executeMediaCommand sendFaults node now (startCommand sourceNodeId context ids operation
      reservation ownerEpoch deadline payload)).run w₁ = .ok result w₂)
    (started : ∀ error, result ≠ .failed error) (answered calledBack : UtcTimestamp) (order : Order) :
    Completes w₂ (startCommand sourceNodeId context ids operation reservation ownerEpoch deadline payload)
      result answered calledBack order ↔ order = .answerFirst := by
  obtain ⟨session,binding,stored⟩ := persistStartResources_ok persisted
  have sent : Sent w₂ _ session binding _ := stored.sent rfl rfl rfl sent
  cases order with
  | answerFirst => exact iff_of_true (sent.answerFirst started) rfl
  | callbackFirst => exact iff_of_false sent.callbackFirst (by simp)

end

/-! A start on an empty store, up to the answer of the node. -/

def sampleIds : StartIds := ⟨10,30,⟨20,22,21,23⟩⟩

def samplePersist : Service Operation :=
  persistStartResources noFaults ⟨1,"operator",9⟩ 0 sampleIds Sample.scope ⟨3,4,"key"⟩ ⟨5,1,1⟩ 7 none
    (.startLive 10 4 5 .live) .live none

def sampleOpened : World := .opened ⟨.empty,.empty,.empty,[]⟩ fun _ => true

def samplePersisted : World := samplePersist.leaves sampleOpened

def sampleCommand : MediaNodeCommand :=
  startCommand 2 ⟨1,"operator",9⟩ sampleIds { Sample.operation .pending with revision := 0 } ⟨5,1,1⟩ 7 none
    (.startLive 10 4 5 .live)

def sampleSent : World :=
  (executeMediaCommand noFaults (fun _ => .ok .accepted) 0 sampleCommand).leaves samplePersisted

theorem samplePersist_run : samplePersist.run sampleOpened =
    .ok { Sample.operation .pending with revision := 0 } samplePersisted := rfl

theorem sampleCommand_run : (executeMediaCommand noFaults (fun _ => .ok .accepted) 0 sampleCommand).run
    samplePersisted = .ok .accepted sampleSent := rfl

theorem sample_answer_first_completes : Completes sampleSent sampleCommand .accepted 2 3 .answerFirst :=
  (start_messages_commute_iff samplePersist_run sampleCommand_run (by simp) 2 3 .answerFirst).mpr rfl

/-- The callback is applied and then the answer is refused. -/
theorem sample_callback_first_refused :
    ∃ session binding operation, StartedCallback sampleSent sampleCommand ⟨5,1,10,30,some 20,7,0,1,.started⟩
      session binding operation ∧
    ∃ s w₁ w₂, (handleMediaEvent 1 3 ⟨5,1,10,30,some 20,7,0,1,.started⟩).run sampleSent = .ok s w₁ ∧
      s.state = .active ∧
      (handleStartResult noFaults 2 sampleCommand .accepted).run w₁ =
        .error (.invalidTransition "MediaSession" "Active" "Inviting") w₂ :=
  ⟨_,_,some _,⟨⟨rfl,rfl,rfl,rfl,rfl,rfl,rfl,rfl,rfl,⟨rfl,rfl⟩⟩,rfl,rfl,rfl,.inr rfl⟩,_,_,_,rfl,rfl,rfl⟩

end CheetahSignaling.MediaStart
