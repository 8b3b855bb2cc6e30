import CheetahSignaling.DomainTypes

/-! The operation aggregate with its saga steps and dispatch attempts. Every method that
changes the operation bumps the revision by one. A method that may have changed the operation
when it returns an error returns the operation next to its result. -/
namespace CheetahSignaling

inductive OperationStepStatus where
  | pending | running | succeeded | failed | compensated

def OperationStepStatus.isTerminal : OperationStepStatus → Bool
  | .succeeded | .failed | .compensated => true
  | .pending | .running => false

inductive DispatchAttemptStatus where
  | pending | sent | acked | nacked | timedOut | deadLetter
  deriving DecidableEq

structure DispatchAttempt where
  attemptId : MessageId
  status : DispatchAttemptStatus
  (sentAt ackedAt : Option UtcTimestamp)
  error : Option ErrorText

structure OperationStep where
  stepId : MessageId
  command : Command
  status : OperationStepStatus
  result : Option OperationResult
  attempts : List DispatchAttempt

structure Operation where
  operationId : OperationId
  tenantId : TenantId
  deviceId : DeviceId
  idempotencyScope : IdempotencyScope
  target : ResourceRef
  command : Command
  deadline : Option UtcTimestamp
  expectedOwnerEpoch : OwnerEpoch
  status : OperationStatus
  result : Option OperationResult
  error : Option ErrorText
  steps : List OperationStep
  (createdAt updatedAt : UtcTimestamp)
  revision : Nat

namespace DispatchAttempt

def new (attemptId : MessageId) : DispatchAttempt := ⟨attemptId,.pending,none,none,none⟩

variable (a : DispatchAttempt) (now : UtcTimestamp)

def markSent : DispatchAttempt :=
  { a with status := .sent, sentAt := some now }

def markAcked : DispatchAttempt :=
  { a with status := .acked, ackedAt := some now }

def markNacked (error : ErrorText) (now : UtcTimestamp) : Except DomainError DispatchAttempt :=
  match error.validate "operation" with
  | .error e => .error e
  | .ok () => .ok { a with status := .nacked, error := some error, ackedAt := some now }

end DispatchAttempt

namespace OperationStep

def new (command : Command) : OperationStep :=
  ⟨command.stepId.getD command.commandId,command,.pending,none,[]⟩

def start (s : OperationStep) : OperationStep := { s with status := .running }

/-- `OperationStep::complete` on a result that has been validated. -/
def complete (result : OperationResult) (s : OperationStep) : OperationStep :=
  { s with status := if result.isSuccess then .succeeded else .failed, result := some result }

end OperationStep

def changeLast (p : α → Bool) (f : α → α) : List α → List α
  | [] => []
  | x :: rest => if rest.any p then x :: changeLast p f rest else if p x then f x :: rest else x :: rest

def changeFirst (p : α → Bool) (missing : ε) (f : α → Except ε α) : List α → Except ε (List α)
  | [] => .error missing
  | x :: rest =>
    if p x then (f x).map (fun y => y :: rest)
    else (changeFirst p missing f rest).map (fun ys => x :: ys)

section Lists

theorem changeFirst_ok (found : xs.find? p = some x) (changed : f x = .ok y) (still : p y = true) :
    ∃ ys, changeFirst p missing f xs = .ok ys ∧ ys.find? p = some y := by
  induction xs with
  | nil => cases found
  | cons a rest ih =>
    by_cases here : p a = true
    · rw [List.find?_cons_of_pos here] at found
      cases found
      exact ⟨y :: rest,by simp [changeFirst,here,changed,Except.map],List.find?_cons_of_pos still⟩
    · rw [List.find?_cons_of_neg here] at found
      obtain ⟨ys,ok,first⟩ := ih found
      exact ⟨a :: ys,by simp [changeFirst,here,ok,Except.map],by rw [List.find?_cons_of_neg here,first]⟩

theorem changeLast_find (match_kept : ∀ x, q (f x) = q x)
    (value_kept : ∀ x, g (f x) = g x) :
    ((changeLast p f xs).find? q).map g = (xs.find? q).map g := by
  induction xs with
  | nil => rfl
  | cons a rest ih =>
    unfold changeLast
    split
    · by_cases here : q a = true
      · simp [List.find?_cons_of_pos here]
      · simp [List.find?_cons_of_neg here,ih]
    split
    · by_cases here : q a = true
      · simp [List.find?_cons_of_pos here,List.find?_cons_of_pos ((match_kept a).trans here),value_kept]
      · have there : ¬ q (f a) = true := by rwa [match_kept]
        simp [List.find?_cons_of_neg here,List.find?_cons_of_neg there]
    · rfl

theorem changeFirst_append (apart : ∀ x ∈ xs, p x = false) (here : p x = true) (changed : f x = .ok y) :
    changeFirst p missing f (xs ++ [x]) = .ok (xs ++ [y]) := by
  induction xs with
  | nil => simp [changeFirst,here,changed,Except.map]
  | cons a rest ih =>
    have others := ih fun x member => apart x (List.mem_cons_of_mem _ member)
    simp [changeFirst,apart a List.mem_cons_self,others,Except.map]

end Lists

namespace Operation

variable {result : OperationResult}

def statusName : OperationStatus → String
  | .pending => "Pending"
  | .running => "Running"
  | .succeeded => "Succeeded"
  | .failed => "Failed"
  | .cancelled => "Cancelled"
  | .timedOut => "TimedOut"

def isTerminal (op : Operation) : Bool := op.status.isTerminal

def bump (op : Operation) (now : UtcTimestamp) : Operation :=
  { op with updatedAt := now, revision := op.revision + 1 }

def stateChangedEvent (op : Operation) (previous : OperationStatus) : DomainEvent :=
  .operationStateChanged op.operationId op.tenantId previous op.status op.result op.error

/-- `current_step_mut`: the last step that is not terminal. -/
def onCurrentStep (f : OperationStep → OperationStep) (steps : List OperationStep) :
    List OperationStep :=
  changeLast (fun s => !s.status.isTerminal) f steps

/-- The identifiers `Operation::new` draws from the generator. -/
structure NewIds where
  operationId : OperationId
  (stepId commandId messageId : MessageId)

def new (ids : NewIds) (now : UtcTimestamp) (tenantId : TenantId) (principalId : String)
    (idempotencyKey : String) (deviceId : DeviceId) (target : ResourceRef) (payload : CommandPayload)
    (deadline : Option UtcTimestamp) (expectedOwnerEpoch : OwnerEpoch) :
    Except DomainError (Operation × DomainEvent) :=
  if deviceId = 0 then .error (.invalidArgument "device_id must not be nil")
  else match IdempotencyScope.new tenantId principalId target idempotencyKey with
  | .error e => .error e
  | .ok idempotencyScope =>
    match payload.validate with
    | .error e => .error e
    | .ok () =>
      let command : Command :=
        { commandId := ids.commandId, messageId := ids.messageId, operationId := ids.operationId,
          stepId := some ids.stepId, tenantId, deviceId, target, payload,
          idempotencyKey := idempotencyScope.idempotencyKey, idempotencyScope, deadline, expectedOwnerEpoch }
      .ok (
        { operationId := ids.operationId, tenantId, deviceId, idempotencyScope, target, command,
          deadline, expectedOwnerEpoch, status := .pending, result := none, error := none,
          steps := [OperationStep.new command], createdAt := now, updatedAt := now, revision := 0 },
        .operationSubmitted ids.operationId tenantId deviceId idempotencyScope command)

structure Submitted (ids : NewIds) (tenantId : TenantId) (deviceId : DeviceId) (idempotencyKey : String)
    (deadline : Option UtcTimestamp) (op : Operation) : Prop where
  id : op.operationId = ids.operationId
  tenant : op.tenantId = tenantId
  device : op.deviceId = deviceId
  key : op.idempotencyScope.idempotencyKey = idempotencyKey
  due : op.deadline = deadline
  pending : op.status = .pending
  first : op.revision = 0
  steps : op.steps = [OperationStep.new op.command]

section

variable (h : new ids now tenant principal key device resource payload due epoch = .ok (op,event))

include h

theorem new_inv :
    Submitted ids tenant device key due op := by
  unfold new at h
  rcases IdempotencyScope.new_cases tenant principal resource key with built | ⟨text,refused⟩
  · rw [built] at h
    split at h
    · cases h
    dsimp only at h
    split at h
    · cases h
    · cases h
      exact ⟨rfl,rfl,rfl,rfl,rfl,rfl,rfl,rfl⟩
  · rw [refused] at h
    split at h <;> cases h

theorem new_scope :
    op.idempotencyScope = ⟨tenant,principal,resource,key⟩ ∧ op.tenantId = tenant := by
  unfold new at h
  rcases IdempotencyScope.new_cases tenant principal resource key with built | ⟨text,refused⟩
  · rw [built] at h
    split at h
    · cases h
    dsimp only at h
    split at h
    · cases h
    · cases h
      exact ⟨rfl,rfl⟩
  · rw [refused] at h
    split at h <;> cases h

end

theorem new_cases (ids : NewIds) (now : UtcTimestamp) (tenantId : TenantId) (principalId : String)
    (idempotencyKey : String) (deviceId : DeviceId) (target : ResourceRef) (payload : CommandPayload)
    (deadline : Option UtcTimestamp) (expectedOwnerEpoch : OwnerEpoch)
    (scope : IdempotencyScope.new tenantId principalId target idempotencyKey = .ok scope')
    (valid : payload.validate = .ok ()) :
    deviceId = 0 ∧ (∃ text, new ids now tenantId principalId idempotencyKey deviceId target payload
        deadline expectedOwnerEpoch = .error (.invalidArgument text)) ∨
      deviceId ≠ 0 ∧ ∃ op event, new ids now tenantId principalId idempotencyKey deviceId target payload
        deadline expectedOwnerEpoch = .ok (op,event) ∧
        Submitted ids tenantId deviceId idempotencyKey deadline op := by
  rcases IdempotencyScope.new_cases tenantId principalId target idempotencyKey with built | ⟨text,refused⟩
  · by_cases nil : deviceId = 0
    · exact .inl ⟨nil,_,by rw [new,if_pos nil]⟩
    · refine .inr ⟨nil,_,_,by rw [new,if_neg nil,built,valid],?_⟩
      exact ⟨rfl,rfl,rfl,rfl,rfl,rfl,rfl,rfl⟩
  · rw [refused] at scope
    cases scope

def started (op : Operation) (now : UtcTimestamp) : Operation :=
  let steps := if op.steps.isEmpty then [OperationStep.new op.command] else op.steps
  bump { op with status := .running, steps := onCurrentStep OperationStep.start steps } now

def start (op : Operation) (now : UtcTimestamp) : Except DomainError (Operation × DomainEvent) :=
  match op.status with
  | .pending => .ok (op.started now,(op.started now).stateChangedEvent .pending)
  | .running => .error (.invalidTransition "Operation" (statusName op.status) "Running")
  | status => .error (.alreadyTerminal "Operation" (statusName status))

@[simp] theorem started_id (op : Operation) : (op.started now).operationId = op.operationId := rfl
@[simp] theorem started_status (op : Operation) : (op.started now).status = .running := rfl

theorem start_pending (op : Operation) (pending : op.status = .pending) :
    op.start now = .ok (op.started now,(op.started now).stateChangedEvent .pending) := by
  simp [start,pending]

theorem start_inv (h : start op now = .ok (op',event)) : op.status = .pending ∧ op' = op.started now := by
  unfold start at h
  split at h
  · cases h
    exact ⟨‹_›,rfl⟩
  · cases h
  · cases h

def completedStatus (result : OperationResult) : OperationStatus :=
  if result.isSuccess then .succeeded else .failed

def completed (op : Operation) (result : OperationResult) (now : UtcTimestamp) : Operation :=
  bump { op with
    status := completedStatus result,
    result := some result,
    error := none,
    steps := onCurrentStep (OperationStep.complete result) op.steps } now

def complete (op : Operation) (result : OperationResult) (now : UtcTimestamp) :
    Except DomainError (Operation × DomainEvent) :=
  match result.validate with
  | .error e => .error e
  | .ok () =>
    match op.status with
    | .running => .ok (op.completed result now,(op.completed result now).stateChangedEvent .running)
    | .cancelled | .timedOut => .error (.alreadyTerminal "Operation" (statusName op.status))
    | _ => .error (.invalidTransition "Operation" (statusName op.status)
        (statusName (completedStatus result)))

section

variable (op : Operation)

include op

@[simp] theorem completed_id :
    (op.completed result now).operationId = op.operationId := rfl
@[simp] theorem completed_revision :
    (op.completed result now).revision = op.revision + 1 := rfl
@[simp] theorem completed_status :
    (op.completed result now).status = completedStatus result := rfl

theorem completed_terminal : (op.completed result now).isTerminal = true := by
  cases result <;> rfl

theorem complete_running (result : OperationResult) (now : UtcTimestamp)
    (running : op.status = .running) (valid : result.validate = .ok ()) :
    op.complete result now =
      .ok (op.completed result now,(op.completed result now).stateChangedEvent .running) := by
  simp [complete,valid,running]

end

theorem complete_inv (h : complete op result now = .ok (op',event)) :
    op.status = .running ∧ result.validate = .ok () ∧ op' = op.completed result now := by
  unfold complete at h
  split at h
  · cases h
  rename_i valid
  split at h
  · cases h
    exact ⟨‹_›,valid,rfl⟩
  · cases h
  · cases h
  · cases h

variable (op : Operation)

variable (stepId attemptId : MessageId) (error : ErrorText) (now : UtcTimestamp)

def failedWith : Operation :=
  bump { op with
    status := .failed,
    error := some error,
    steps := onCurrentStep (OperationStep.complete (.failure error)) op.steps,
    result := some (.failure error) } now

def fail : Operation × Except DomainError DomainEvent :=
  match op.status with
  | .pending | .running =>
    match error.validate "operation" with
    | .error e => ({ op with status := .failed },.error e)
    | .ok () => (op.failedWith error now,.ok ((op.failedWith error now).stateChangedEvent op.status))
  | .succeeded | .failed =>
    (op,.error (.invalidTransition "Operation" (statusName op.status) "Failed"))
  | .cancelled | .timedOut => (op,.error (.alreadyTerminal "Operation" (statusName op.status)))

def endWith (status : OperationStatus) (error : ErrorText) (result : OperationResult)
    (now : UtcTimestamp) : Operation × Except DomainError DomainEvent :=
  match op.status with
  | .pending | .running =>
    let ended := { op with status, error := some error }
    match if op.steps.all (·.status.isTerminal) then .ok () else result.validate with
    | .error e => (ended,.error e)
    | .ok () =>
      let closed := bump { ended with steps := onCurrentStep (OperationStep.complete result) op.steps } now
      (closed,.ok (closed.stateChangedEvent op.status))
  | .succeeded | .failed =>
    (op,.error (.invalidTransition "Operation" (statusName op.status) (statusName status)))
  | .cancelled | .timedOut => (op,.error (.alreadyTerminal "Operation" (statusName op.status)))

def cancel : Operation × Except DomainError DomainEvent :=
  op.endWith .cancelled ⟨"cancelled","operation was cancelled"⟩ (.failure ⟨"cancelled","operation cancelled"⟩) now

def timeout : Operation × Except DomainError DomainEvent :=
  match error.validate "operation" with
  | .error e => (op,.error e)
  | .ok () => op.endWith .timedOut error (.failure error) now

def expire : Operation × Except DomainError DomainEvent :=
  op.timeout ⟨"expired_before_dispatch","deadline expired before dispatch"⟩ now

def recordDispatchAttempt (stepId : MessageId) (attempt : DispatchAttempt)
    (now : UtcTimestamp) : Except DomainError Operation :=
  (changeFirst (fun s => s.stepId == stepId) (.notFound "operation step" stepId)
    (fun s => .ok { s with attempts := s.attempts ++ [attempt] }) op.steps).map
      fun steps => bump { op with steps } now

/-- `step_mut(step_id)` and `attempt_mut(attempt_id)`, each with its own error. -/
def onDispatchAttempt (f : DispatchAttempt → Except DomainError DispatchAttempt) (now : UtcTimestamp) :
    Except DomainError Operation :=
  (changeFirst (fun s => s.stepId == stepId) (.notFound "operation step" stepId)
    (fun s => (changeFirst (fun a => a.attemptId == attemptId) (.notFound "dispatch attempt" attemptId)
      f s.attempts).map fun attempts => { s with attempts }) op.steps).map
      fun steps => bump { op with steps } now

def markDispatchAttemptSent :=
  op.onDispatchAttempt stepId attemptId (fun a => .ok (a.markSent now)) now

def markDispatchAttemptAcked :=
  op.onDispatchAttempt stepId attemptId (fun a => .ok (a.markAcked now)) now

def markDispatchAttemptNacked :=
  op.onDispatchAttempt stepId attemptId (fun a => a.markNacked error now) now

end Operation

end CheetahSignaling
