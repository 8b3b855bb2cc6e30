import CheetahSignaling.MediaCommand
import CheetahSignaling.GuardedRun

/-! `CommandDispatcher::dispatch`. The operation is stored when it starts, when an attempt is
recorded, when the outcome of the attempt is known and when it is completed, each time in a
transaction of its own. A fault at a call is a crash or a storage error there: either way
nothing follows. Answers of the owner resolver and of the command bus are arguments. -/
namespace CheetahSignaling

namespace Operation

section

variable (op : Operation) (stepId : MessageId)

def commandStep : MessageId := op.command.stepId.getD op.command.commandId

def stepAttempts : Option (List DispatchAttempt) :=
  (op.steps.find? fun s => s.stepId == stepId).map OperationStep.attempts

def hasSentOrAckedAttempt : Bool :=
  match op.stepAttempts stepId with
  | some attempts => attempts.any fun a => a.status == .sent || a.status == .acked
  | none => false

def findPendingAttemptId : Option MessageId :=
  match op.stepAttempts stepId with
  | some attempts => (attempts.reverse.find? fun a => a.status == .pending).map DispatchAttempt.attemptId
  | none => none

end

/-- The next revision of the same operation, in the same status. -/
structure Advanced (op op' : Operation) : Prop where
  id : op'.operationId = op.operationId
  tenant : op'.tenantId = op.tenantId
  command : op'.command = op.command
  epoch : op'.expectedOwnerEpoch = op.expectedOwnerEpoch
  status : op'.status = op.status
  revision : op'.revision = op.revision + 1

section Attempts

variable {op : Operation}

theorem started_stepAttempts (tracked : op.stepAttempts stepId = some attempts) :
    (op.started now).stepAttempts stepId = some attempts := by
  have steps : op.steps.isEmpty = false := by
    cases empty : op.steps with
    | nil => simp [stepAttempts,empty] at tracked
    | cons _ _ => rfl
  rw [← tracked]
  simp only [started,steps,Bool.false_eq_true,if_false,stepAttempts,bump]
  unfold onCurrentStep
  rw [changeLast_find] <;> exact fun _ => rfl

theorem started_stepless (empty : op.steps = []) : (op.started now).stepAttempts op.commandStep = some [] := by
  simp [started,empty,stepAttempts,bump,onCurrentStep,changeLast,OperationStep.new,OperationStep.start,commandStep,
    OperationStepStatus.isTerminal]

theorem recordDispatchAttempt_ok (now : UtcTimestamp)
    (tracked : op.stepAttempts stepId = some attempts) :
    ∃ op', op.recordDispatchAttempt stepId attempt now = .ok op' ∧
      op'.stepAttempts stepId = some (attempts ++ [attempt]) ∧ Advanced op op' := by
  obtain ⟨step,found,rfl⟩ := Option.map_eq_some_iff.mp tracked
  have here : (step.stepId == stepId) = true := List.find?_some (p := fun s : OperationStep => s.stepId == stepId) found
  obtain ⟨steps,changed,first⟩ := changeFirst_ok found
    (f := fun s => .ok { s with attempts := s.attempts ++ [attempt] }) rfl here
  refine ⟨bump { op with steps } now,?_,?_,rfl,rfl,rfl,rfl,rfl,rfl⟩
  · rw [recordDispatchAttempt,changed]
    rfl
  · simp [stepAttempts,bump,first]

theorem onDispatchAttempt_ok (tracked : op.stepAttempts stepId = some attempts)
    (changed : changeFirst (fun a => a.attemptId == attemptId) (.notFound "dispatch attempt" attemptId)
      f attempts = .ok attempts') :
    ∃ op', op.onDispatchAttempt stepId attemptId f now = .ok op' ∧
      op'.stepAttempts stepId = some attempts' ∧ Advanced op op' := by
  obtain ⟨step,found,rfl⟩ := Option.map_eq_some_iff.mp tracked
  have here : (step.stepId == stepId) = true := List.find?_some (p := fun s : OperationStep => s.stepId == stepId) found
  obtain ⟨steps,done,first⟩ := changeFirst_ok found
    (f := fun s => (changeFirst (fun a => a.attemptId == attemptId) (.notFound "dispatch attempt" attemptId) f
      s.attempts).map fun attempts => { s with attempts })
    (y := { step with attempts := attempts' }) (by rw [changed]; rfl) here
  refine ⟨bump { op with steps } now,?_,?_,rfl,rfl,rfl,rfl,rfl,rfl⟩
  · rw [onDispatchAttempt,done]
    rfl
  · simp [stepAttempts,bump,first]

end Attempts

end Operation

namespace CommandDispatcher

open Service

/-- The printed error of a port: a message clamped to 1024 bytes behind a fixed text, so within the
limit of an operation's error message, which is all that is asked of it here. -/
def PortText := { text : String // text.utf8ByteSize ≤ maxErrorMessageBytes }

inductive DispatchCall where
  | get
  | saveStarted | appendStarted | commitStarted
  | saveAttempt | commitAttempt
  | resolve | send
  | saveSent | commitSent | saveNacked | commitNacked
  | saveCompleted | appendCompleted | commitCompleted
  deriving DecidableEq

/-- One invocation: where it stops, what it is told, and the attempt id it would draw. -/
structure Dispatch where
  faults : DispatchCall → Option DomainError
  /-- The owner epoch `owner_resolver.resolve` returns. -/
  owner : Except PortText (Option OwnerEpoch)
  bus : Command → Except PortText Unit
  now : UtcTimestamp
  attemptId : MessageId

section

variable (d : Dispatch) (tenant : TenantId)

section

variable (operation : Operation)

/-- `Pending` becomes `Running`, committed before any external call. -/
def startPending : Service Operation :=
  if operation.status = .pending then do
    let (operation,event) ← ofResult (operation.start d.now)
    call (d.faults .saveStarted) (saveOperation operation)
    call (d.faults .appendStarted) (append (operationEvent tenant operation event))
    commitCall (d.faults .commitStarted)
    return operation
  else pure operation

/-- A pending attempt of an earlier invocation is used again. -/
def pendingAttempt : Except DomainError (MessageId × Operation) :=
  match operation.findPendingAttemptId operation.commandStep with
  | some attemptId => .ok (attemptId,operation)
  | none => (operation.recordDispatchAttempt operation.commandStep (DispatchAttempt.new d.attemptId) d.now).map
      fun operation => (d.attemptId,operation)

def storeOperation (saveFailure commitFailure : Option DomainError) (operation : Operation) : Service Unit := do
  call saveFailure (saveOperation operation)
  commitCall commitFailure

section

variable (attemptId : MessageId) (error : ErrorText)

def completeOperation : Service Operation := do
  let (operation,event) ← ofResult (operation.complete (.failure error) d.now)
  call (d.faults .saveCompleted) (saveOperation operation)
  call (d.faults .appendCompleted) (append (operationEvent tenant operation event))
  commitCall (d.faults .commitCompleted)
  return operation

def rejectAttempt : Service Operation := do
  let operation ← ofResult (operation.markDispatchAttemptNacked operation.commandStep attemptId error d.now)
  storeOperation (d.faults .saveNacked) (d.faults .commitNacked) operation
  completeOperation d tenant operation error

def confirmAttempt : Service Operation := do
  let operation ← ofResult (operation.markDispatchAttemptSent operation.commandStep attemptId d.now)
  storeOperation (d.faults .saveSent) (d.faults .commitSent) operation
  return operation

def sendCommand (command : Command) : Service (Except PortText Unit) :=
  match d.bus command with
  | .ok () => do
    modify fun w => { w with sent := w.sent ++ [command] }
    return .ok ()
  | .error text => pure (.error text)

def deliver : Service Operation := do
  match ← call (d.faults .resolve) (pure d.owner) with
  | .ok (some ownerEpoch) =>
    if ownerEpoch = operation.expectedOwnerEpoch then do
      match ← call (d.faults .send) (sendCommand d operation.command) with
      | .ok () => confirmAttempt d operation attemptId
      | .error text => rejectAttempt d tenant operation attemptId ⟨"COMMAND_BUS",text.val⟩
    else rejectAttempt d tenant operation attemptId ⟨"STALE_OWNER","stale owner epoch"⟩
  | .ok none => rejectAttempt d tenant operation attemptId ⟨"NO_OWNER","no owner resolved"⟩
  | .error text => rejectAttempt d tenant operation attemptId ⟨"RESOLVE_ERROR",text.val⟩

end

/-- The part of `dispatch` for an operation whose command is not known to be sent. -/
def attemptDispatch : Service Operation := do
  let operation ← startPending d tenant operation
  let (attemptId,operation) ← ofResult (pendingAttempt d operation)
  storeOperation (d.faults .saveAttempt) (d.faults .commitAttempt) operation
  deliver d tenant operation attemptId

end

def dispatch (operationId : OperationId) : Service Operation := do
  let operation ← call (d.faults .get) (getOperation tenant operationId)
  if operation.isTerminal then return operation
  else if operation.status = .running ∧ operation.hasSentOrAckedAttempt operation.commandStep then
    return operation
  else attemptDispatch d tenant operation

end

end CommandDispatcher

end CheetahSignaling
